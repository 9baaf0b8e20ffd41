import AleoFinalize.Interpreter.Schedule
import AleoFinalize.Api.Types

/-!
**The rest of `get_mapping_value`** (lines 309-329), interleaved with `finalize_block`.

Once past line 308, or past line 307 when the mapping was cached, a call runs on with no await
until `db.get_program` (line 312), which it reaches only when `global_program_cache` has no copy of
the program; it reads `global_mapping_cache[mapping_id]` at line 323, after that suspension.

* `lookupValue` — lines 317-329, on the loaded program and on the entry of `global_mapping_cache`
  for the mapping: `none` when the cache has no such mapping, where line 323 raises `KeyError`;
* `LookupWorld` — the world of the calls and the block run (`World`), with
  `global_program_cache` and where each call stands after line 308;
* `LookupWorld.step` — an event of `World`, after which a call that has just passed line 308 (or
  307) runs on at once (`LookupWorld.resume`); or `fetched i`: call `i` is back from
  `db.get_program`.

`Literal.loads`, `cached_get_key_id` and `str` of a mapping id are collaborators (`LookupEnv`);
programs are loaded as the API loads them (`Api.Program`).
-/

namespace AleoFinalize

/-- The collaborators of lines 309-329. -/
structure LookupEnv where
  /-- `db.get_program` followed by `Program.load`; `none` when the database has no such program. -/
  getProgram : String → Option Api.Program
  /-- `Literal.loads(Literal.Type(...), key)`, as the dump of the key's plaintext. -/
  literalLoads : String → String → Except Fault String
  /-- `cached_get_key_id(program_id, mapping_name, dump)`. -/
  keyIdOf : String → String → String → Field
  /-- `str(mapping_id)`. -/
  fieldStr : Field → String

/-- Lines 317-329: the mapping's key type, the key parsed at it and hashed, and the cached value.
`entries` is `global_mapping_cache.get(mapping_id)`. -/
def lookupValue (env : LookupEnv) (programId mappingName key : String) (mappingId : Field)
    (program : Api.Program) (entries : Option MappingCacheDict) : Except Fault Value := do
  let some keyType := program.mappings.lookup mappingName | throw .keyError
  let .literal literalType := keyType | throw (.typeError "unsupported key type")
  let dump ← env.literalLoads literalType key
  let some entries := entries | throw .keyError
  let some entry := entries (env.keyIdOf programId mappingName dump)
    | throw (.executeError
        ⟨"key " ++ key ++ " not found in mapping " ++ env.fieldStr mappingId, none, ""⟩)
  let .plaintext _ := entry.value | throw (.typeError "invalid value type")
  return entry.value

/-- Where a call stands after line 308: not there yet, suspended in `db.get_program`, or returned
(or raised). -/
inductive LookupPc where
  | waiting
  | fetching
  | done (result : Except Fault Value)

/-- A call's arguments, and where it stands after line 308. -/
structure Lookup where
  programId : String
  mappingName : String
  key : String
  pc : LookupPc

/-- The world of `World`, with `global_program_cache`; the `i`-th call is reader `i` of `world`. -/
structure LookupWorld where
  world : World
  programCache : String → Option Api.Program
  lookups : List Lookup

/-- An event of `World`, or a call back from `db.get_program`. -/
inductive LookupEvent where
  | world (event : Event)
  | fetched (reader : Nat)
  deriving DecidableEq

section Step

variable (env : LookupEnv) (finalizeDeploy finalizeExecute : TransactionFinalizer)
  (mappingCacheRead : List DbWrite → Field → MappingCacheDict)

/-- Lines 309-316 up to the await, run at once when call `reader` has just passed line 308 (or
307): with the program cached, the whole rest of the call; otherwise it suspends in
`db.get_program`. -/
def LookupWorld.resume (world : LookupWorld) (reader : Nat) : LookupWorld :=
  match world.world.readers[reader]?, world.lookups[reader]? with
  | some (mappingId, .done), some lookup =>
    match lookup.pc, world.programCache lookup.programId with
    | .waiting, some program =>
      let result := lookupValue env lookup.programId lookup.mappingName lookup.key mappingId
        program (world.world.store.cache mappingId)
      { world with lookups := world.lookups.set reader { lookup with pc := .done result } }
    | .waiting, none =>
      { world with lookups := world.lookups.set reader { lookup with pc := .fetching } }
    | _, _ => world
  | _, _ => world

/-- One event, or `none` when the coroutine it names is not at that point. -/
def LookupWorld.step (world : LookupWorld) : LookupEvent → Option LookupWorld
  | .world event =>
    (world.world.step finalizeDeploy finalizeExecute mappingCacheRead event).map fun next =>
      match event with
      | .check reader | .install reader =>
        LookupWorld.resume env { world with world := next } reader
      | _ => { world with world := next }
  | .fetched reader => match world.world.readers[reader]?, world.lookups[reader]? with
    | some (mappingId, _), some lookup => match lookup.pc, env.getProgram lookup.programId with
      | .fetching, none =>
        let missing : Except Fault Value := .error (.runtimeError "program not found")
        some { world with lookups := world.lookups.set reader { lookup with pc := .done missing } }
      | .fetching, some program =>
        let result := lookupValue env lookup.programId lookup.mappingName lookup.key mappingId
          program (world.world.store.cache mappingId)
        some { world with
          programCache := Function.update world.programCache lookup.programId (some program)
          lookups := world.lookups.set reader { lookup with pc := .done result } }
      | _, _ => none
    | _, _ => none

/-- A run: the events in order, each on the world the one before left. -/
def LookupWorld.run : LookupWorld → List LookupEvent → Option LookupWorld
  | world, [] => some world
  | world, event :: events =>
    (world.step env finalizeDeploy finalizeExecute mappingCacheRead event).bind fun next =>
      next.run events

end Step

end AleoFinalize
