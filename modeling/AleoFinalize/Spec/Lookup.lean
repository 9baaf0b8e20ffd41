import AleoFinalize.Interpreter.MappingValue

/-!
**When line 323 of `get_mapping_value` finds its mapping.**

* `LookupPc.isFetching`, `LookupWorld.quiet` — a call suspended in `db.get_program`, and a world
  with none;
* `LookupEnv.Loaded` — `global_program_cache` holds only programs as the database has them;
* `LookupFound` — a suspended call has passed line 308 and its mapping is cached; a finished call
  either found no program in the database, or ran lines 317-329 on the program the database holds,
  the mapping id of its own line 306 and an entry of `global_mapping_cache` present at line 323;
* `LookupWorld.Found` — the program cache is loaded so, and every call stands so;
* `LookupWorld.quietRun` — a schedule whose block steps all come while no call is suspended in
  `db.get_program`.
-/

namespace AleoFinalize

/-- Whether a call is suspended in `db.get_program`. -/
def LookupPc.isFetching : LookupPc → Bool
  | .fetching => true
  | _ => false

/-- No call is suspended in `db.get_program`. -/
def LookupWorld.quiet (world : LookupWorld) : Bool :=
  world.lookups.all fun lookup => !lookup.pc.isFetching

/-- `global_program_cache` holds only programs as `db.get_program` returns them. -/
def LookupEnv.Loaded (env : LookupEnv) (programCache : String → Option Api.Program) : Prop :=
  ∀ programId program, programCache programId = some program →
    env.getProgram programId = some program

/-- Call `reader` of `world` stands where line 323 will find, or found, its mapping. A finished
call's `entries` is the entry line 323 read, which later steps may have replaced. -/
def LookupFound (env : LookupEnv) (world : World) (reader : Nat) (lookup : Lookup) : Prop :=
  (lookup.pc = .fetching → ∃ mappingId, world.readers[reader]? = some (mappingId, .done) ∧
    (world.store.cache mappingId).isSome) ∧
  ∀ result, lookup.pc = .done result →
    (env.getProgram lookup.programId = none ∧
      result = .error (.runtimeError "program not found")) ∨
    ∃ mappingId program entries, world.readers[reader]? = some (mappingId, .done) ∧
      env.getProgram lookup.programId = some program ∧
      result = lookupValue env lookup.programId lookup.mappingName lookup.key mappingId program
        (some entries)

/-- The program cache is loaded from the database, and every call of the world stands so. -/
structure LookupWorld.Found (env : LookupEnv) (world : LookupWorld) : Prop where
  programs : env.Loaded world.programCache
  lookups : ∀ reader lookup, world.lookups[reader]? = some lookup →
    LookupFound env world.world reader lookup

section Quiet

variable (env : LookupEnv) (finalizeDeploy finalizeExecute : TransactionFinalizer)
  (mappingCacheRead : List DbWrite → Field → MappingCacheDict)

/-- The block steps of the schedule all come while no call is suspended in `db.get_program`. A
schedule is checked only as far as it runs. -/
def LookupWorld.quietRun (world : LookupWorld) : List LookupEvent → Bool
  | [] => true
  | event :: events => (event != .world .block || world.quiet) &&
    match world.step env finalizeDeploy finalizeExecute mappingCacheRead event with
    | some next => next.quietRun events
    | none => true

end Quiet

end AleoFinalize
