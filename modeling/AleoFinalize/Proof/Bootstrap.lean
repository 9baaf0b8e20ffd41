import AleoFinalize.Interpreter.Finalize

/-!
**The bootstrap of builtin programs.**

* `initBuiltinMapping_stored` — **the step**: after one iteration the program is stored, and a
  stored program stays stored;
* `initBuiltinProgram_builtinMappings` — the loop initializes one builtin mapping per mapping of the
  program, in order, with the id computed from the program id and the mapping name;
* `initBuiltinProgram_complete` — a program with at least one mapping is stored afterwards;
* `initBuiltinProgram_bare` — but the check-and-save sits inside the loop: a program without
  mappings is never saved.
-/

namespace AleoFinalize

variable {mappingIdOf : String → String → Field} {program : Program}

/-- Appending a program to a list that holds none of its id makes it found. -/
theorem getProgram_append_of_none {programs : List Program} (absent : getProgram programs program.id = none) :
    getProgram (programs ++ [program]) program.id = some program := by
  simp only [getProgram] at absent ⊢
  simp [List.find?_append, absent]

/-- **The step**: after one iteration the program is stored, whatever was stored before. -/
theorem initBuiltinMapping_stored (db : BuiltinDb) (mapping : String) :
    (getProgram (initBuiltinMapping mappingIdOf program db mapping).programs program.id).isSome := by
  simp only [initBuiltinMapping]
  split_ifs with absent
  · rw [getProgram_append_of_none (Option.isNone_iff_eq_none.mp absent)]
    rfl
  · simpa [Option.isSome_iff_ne_none] using absent

/-- A stored program stays stored through the rest of the loop. -/
theorem initBuiltinProgram_stored_of_stored (mappings : List String) (db : BuiltinDb)
    (stored : (getProgram db.programs program.id).isSome) :
    (getProgram (mappings.foldl (initBuiltinMapping mappingIdOf program) db).programs
      program.id).isSome := by
  induction mappings generalizing db with
  | nil => exact stored
  | cons mapping mappings ih => exact ih _ (initBuiltinMapping_stored db mapping)

/-- The loop initializes one builtin mapping per mapping of the program, in order, with the id of
`(program.id, mapping)`. -/
theorem initBuiltinProgram_builtinMappings (db : BuiltinDb) :
    (initBuiltinProgram mappingIdOf program db).builtinMappings =
      db.builtinMappings ++ program.mappings.map fun mapping =>
        (mappingIdOf program.id mapping, program.id, mapping) := by
  unfold initBuiltinProgram
  generalize program.mappings = mappings
  induction mappings generalizing db with
  | nil => simp
  | cons mapping mappings ih =>
    rw [List.foldl_cons, ih]
    simp only [initBuiltinMapping]
    split_ifs <;> simp

/-- **A program with a mapping is bootstrapped completely**: it is stored afterwards, and one
builtin mapping per mapping was initialized, in order, with the id of `(program.id, mapping)`. -/
theorem initBuiltinProgram_complete (db : BuiltinDb) (hasMapping : program.mappings ≠ []) :
    (getProgram (initBuiltinProgram mappingIdOf program db).programs program.id).isSome ∧
      (initBuiltinProgram mappingIdOf program db).builtinMappings =
        db.builtinMappings ++ program.mappings.map fun mapping =>
          (mappingIdOf program.id mapping, program.id, mapping) := by
  refine ⟨?_, initBuiltinProgram_builtinMappings db⟩
  obtain ⟨mapping, mappings, named⟩ := List.exists_cons_of_ne_nil hasMapping
  rw [initBuiltinProgram, named, List.foldl_cons]
  exact initBuiltinProgram_stored_of_stored _ _ (initBuiltinMapping_stored db mapping)

/-- `bare.aleo`: no functions, no mappings. -/
def bareProgram : Program := ⟨"bare.aleo", [], [], by decide⟩

/-- `credits.aleo` with its `account` mapping, stored on an empty database. -/
def accountProgram : Program := ⟨"credits.aleo", [], ["account"], by decide⟩

theorem initBuiltinProgram_complete_account :
    accountProgram.mappings ≠ [] ∧
      (getProgram (initBuiltinProgram (fun _ _ => 3) accountProgram ⟨[], []⟩).programs
        accountProgram.id).isSome ∧
      (initBuiltinProgram (fun _ _ => 3) accountProgram ⟨[], []⟩).builtinMappings =
        [] ++ accountProgram.mappings.map fun mapping => (3, accountProgram.id, mapping) :=
  ⟨by decide, initBuiltinProgram_complete ⟨[], []⟩ (by decide)⟩

/-- **A program without mappings is never saved**: on an empty database, `init_builtin_program`
initializes nothing and leaves `db.get_program(program.id)` at `None`. -/
theorem initBuiltinProgram_bare (mappingIdOf : String → String → Field) :
    (initBuiltinProgram mappingIdOf bareProgram ⟨[], []⟩).builtinMappings = [] ∧
      getProgram (initBuiltinProgram mappingIdOf bareProgram ⟨[], []⟩).programs bareProgram.id =
        none :=
  ⟨rfl, rfl⟩

end AleoFinalize
