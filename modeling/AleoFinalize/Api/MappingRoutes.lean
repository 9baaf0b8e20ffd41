import AleoFinalize.Api.Types
import AleoFinalize.Interpreter.Finalize

/-!
**The mapping routes** (`api/mapping_routes.py`): `mapping_route`, `mapping_list_route`,
`mapping_value_list_route` and `mapping_key_count_route`.

All four share one program cache (`program_cache`, handed to them by `use_program_cache`) and open
with the same read-through block (`withProgram`); what follows it reads the database and the
loaded program but never the cache. The database, `parse_history_params` (of `api.utils`) and
the parsers of `aleo_types` are collaborators: `MappingDb` is the database as one request sees
it, `Parsers` the parsing functions, which never change.

A run (`serveRun`) interleaves requests with the database moving on (new blocks, new
deployments); the program cache lives across the whole run.
-/

namespace AleoFinalize.Api

/-- The database as the mapping routes read it. Values come back as `str` renders them. -/
structure MappingDb where
  /-- `db.get_program` followed by `Program.load`; `none` when the database has no such program. -/
  getProgram : String → Option Program
  /-- `db.get_mapping_value(program_id, mapping, key_id)`. -/
  getMappingValue : String → String → Field → Option String
  /-- `db.get_mapping_value_at_height(program_id, mapping, key_id, height)`. -/
  getMappingValueAtHeight : String → String → Field → Int → Option String
  getLatestHeight : Option Int
  getLatestBlockTimestamp : Option Int
  /-- `parse_history_params(db, height, time_str)`: the height and block timestamp it settles on,
  or the error response it returns. -/
  parseHistoryParams : Option String → Option String → Except Response (Int × Int)
  /-- `db.get_mapping_cache(program_id, mapping)`: key id, key and value of each entry. -/
  getMappingCache : String → String → List (String × String × String)
  /-- `db.get_mapping_key_value(program_id, mapping, count, cursor)`: the page's keys and values,
  and the next cursor. -/
  getMappingKeyValue : String → String → Int → Int → List (String × String) × Json
  getMappingKeyCount : String → String → Int

/-- The parsing functions the routes call. -/
structure Parsers where
  /-- `primitive_type.loads(text)`, as the dump of the literal plaintext it builds; `none` when it
  raises. -/
  loadsPrimitive : String → String → Option String
  /-- `StructPlaintext.loads(text, struct_type, structs)`: the plaintext's dump, or the text of
  the exception it raises. -/
  loadsStruct : String → StructType → List (String × StructType) → Except String String
  /-- `cached_get_key_id(program_id, mapping, key.dump())`. -/
  keyIdOf : String → String → String → Field
  /-- Python's `int(text)`; `none` when it raises `ValueError`. -/
  int : String → Option Int

/-- The requests of the four routes, with their path and query parameters. -/
inductive Request where
  | mapping (version : Nat) (programId mapping key : String) (height time : Option String)
  | mappingList (programId : String)
  | mappingValueList (version : Nat) (programId mapping : String) (count cursor : Option String)
  | mappingKeyCount (version : Nat) (programId mapping : String)

section Routes

variable (db : MappingDb) (parsers : Parsers)

/-- The read-through block the four routes open with, then the rest of the route on the loaded
program. -/
def withProgram (programId : String) (rest : Program → Except Fault Response) :
    EStateM Fault ProgramCache Response := do
  let some program ← readThrough db.getProgram programId
    | return .error "Program not found" 404
  fromExcept (rest program)

/-- Lines 37-55: the key parsed at the mapping's key type and hashed into its key id, or the
response the route returns instead. -/
def mappingKeyId (programId mapping key : String) (program : Program) :
    PlaintextType → Except Fault (Except Response Field)
  | .literal primitiveType => match parsers.loadsPrimitive primitiveType key with
    | none => .ok (.error (.error "Invalid key" 400))
    | some dump => .ok (.ok (parsers.keyIdOf programId mapping dump))
  | .struct name => match program.structs.lookup name with
    | none => .error .keyError
    | some structType => match parsers.loadsStruct key structType program.structs with
      | .error message => .ok (.error (.error ("Invalid struct key: " ++ message ++
          " (experimental feature, if you believe this is an error please submit a feedback)") 400))
      | .ok dump => .ok (.ok (parsers.keyIdOf programId mapping dump))
  | .other => .ok (.error (.error "Unknown key type" 500))

/-- Lines 58-68: the height, the block timestamp and the value, at the height the history
parameters settle on, or the latest ones. -/
def mappingRead (programId mapping : String) (keyId : Field) (height time : Option String) :
    Except Response (Option Int × Option Int × Option String) :=
  if truthy height || truthy time then
    (db.parseHistoryParams height time).map fun (height, timestamp) =>
      (some height, some timestamp, db.getMappingValueAtHeight programId mapping keyId height)
  else
    .ok (db.getLatestHeight, db.getLatestBlockTimestamp, db.getMappingValue programId mapping keyId)

/-- `mapping_route` from line 35 on, once the program is loaded. -/
def mappingValue (version : Nat) (programId mapping key : String) (height time : Option String)
    (program : Program) : Except Fault Response := do
  let some keyType := program.mappings.lookup mapping
    | return .error "Mapping not found" 404
  match ← mappingKeyId parsers programId mapping key program keyType with
  | .error response => return response
  | .ok keyId =>
    match mappingRead db programId mapping keyId height time with
    | .error response => return response
    | .ok (height, timestamp, value) =>
      if version < 3 then return .json (.str (value.getD "None"))
      return .json (.obj [("height", .ofOption height), ("timestamp", .ofOption timestamp),
        ("value", match value with
          | some value => .str value
          | none => .null)])

/-- `mapping_route`. -/
def mappingRoute (version : Nat) (programId mapping key : String) (height time : Option String) :
    EStateM Fault ProgramCache Response :=
  if (truthy height || truthy time) && version < 3 then
    pure (.error "This endpoint does not support height or time parameter in this version" 400)
  else withProgram db programId (mappingValue db parsers version programId mapping key height time)

/-- `mapping_list_route`. -/
def mappingListRoute (programId : String) : EStateM Fault ProgramCache Response :=
  withProgram db programId fun program =>
    pure (.json (.arr (program.mappings.map fun declared => .str declared.1)))

/-- `int(request.query_params.get(name, default))`. -/
def queryInt (text : Option String) (default : Int) : Except Fault Int :=
  match text with
  | none => pure default
  | some text => match parsers.int text with
    | some value => pure value
    | none => throw .valueError

/-- `mapping_value_list_route` from line 116 on: the whole mapping up to version 1, a page of at
most 100 entries after that. -/
def mappingValueList (version : Nat) (programId mapping : String) (count cursor : Option String)
    (program : Program) : Except Fault Response := do
  if (program.mappings.lookup mapping).isNone then return .error "Mapping not found" 404
  if version ≤ 1 then
    return .json (.obj ((db.getMappingCache programId mapping).map fun (keyId, key, value) =>
      (keyId, .obj [("key", .str key), ("value", .str value)])))
  let count ← queryInt parsers count 50
  let count := if count > 100 then 100 else count
  let cursor ← queryInt parsers cursor 0
  let (page, next) := db.getMappingKeyValue programId mapping count cursor
  return .json (.obj [("result", .arr (page.map fun (key, value) =>
    .obj [("key", .str key), ("value", .str value)])), ("cursor", next)])

/-- `mapping_value_list_route`. -/
def mappingValueListRoute (version : Nat) (programId mapping : String)
    (count cursor : Option String) : EStateM Fault ProgramCache Response :=
  withProgram db programId (mappingValueList db parsers version programId mapping count cursor)

/-- `mapping_key_count_route`: not served up to version 1, before the program is even looked at. -/
def mappingKeyCountRoute (version : Nat) (programId mapping : String) :
    EStateM Fault ProgramCache Response :=
  if version ≤ 1 then pure (.error "This endpoint is not supported in this version" 400)
  else withProgram db programId fun program =>
    if (program.mappings.lookup mapping).isNone then pure (.error "Mapping not found" 404)
    else pure (.json (.int (db.getMappingKeyCount programId mapping)))

/-- The route a request goes to. -/
def serve : Request → EStateM Fault ProgramCache Response
  | .mapping version programId mapping key height time =>
    mappingRoute db parsers version programId mapping key height time
  | .mappingList programId => mappingListRoute db programId
  | .mappingValueList version programId mapping count cursor =>
    mappingValueListRoute db parsers version programId mapping count cursor
  | .mappingKeyCount version programId mapping => mappingKeyCountRoute db version programId mapping

end Routes

/-! ### Runs -/

/-- What happens to the API process: a request is served, or the database moves on. -/
inductive Event where
  | request (request : Request)
  | advance (db : MappingDb)

/-- The outcomes of the requests of a run, in order, served with one program cache. -/
def serveRun (parsers : Parsers) :
    MappingDb → ProgramCache → List Event → List (Except Fault Response)
  | _, _, [] => []
  | db, cache, .request request :: events =>
    outcome (serve db parsers request cache) ::
      serveRun parsers db (finalState (serve db parsers request cache)) events
  | _, cache, .advance db :: events => serveRun parsers db cache events

end AleoFinalize.Api
