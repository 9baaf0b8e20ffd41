import AleoFinalize.Api.Types

/-!
**The finalize preview route** (`api/execute_routes.py`, `preview_finalize_route`).

The route checks the request body, loads the program and the transition's finalize block, converts
the request's inputs at the types of the finalize inputs (`loadFinalizeInputs`, the loop of
lines 42-63), runs `preview_finalize_execution` on them, and renders the operations it returns
(`mappingUpdate`, the loop of lines 69-92). Only `UpdateKeyValue` operations are rendered: every
other kind raises.

The route reads the database directly, with no program cache. The database, the parsers of
`aleo_types` and `preview_finalize_execution` (which runs the finalizer outside this excerpt, with
fresh mapping caches and no state change) are collaborators (`PreviewEnv`).
-/

namespace AleoFinalize.Api

/-- The operation dictionaries `preview_finalize_execution` returns, one constructor per
`FinalizeOperation.Type`; an update carries the fields the route renders, each as `str` renders
it (its `index` as it is). -/
inductive PreviewOperation where
  | initializeMapping
  | insertKeyValue
  | updateKeyValue (mappingId : String) (index : Json) (keyId valueId mapping key value : String)
  | removeKeyValue
  | removeMapping
  deriving Repr

/-- The collaborators of the preview route. -/
structure PreviewEnv where
  /-- `Program.load(BytesIO(await db.get_program(program_id)))`; `none` when that raises. -/
  getProgram : Json → Option Program
  /-- `Identifier.loads(transition_name)`. -/
  identifierLoads : Json → Except Fault String
  /-- `primitive_type.loads(str(input))`, as the dump of the literal plaintext the route builds;
  `none` when it raises. -/
  loadsPrimitive : String → Json → Option String
  /-- `StructPlaintext.loads(input, struct_type, structs)`: the plaintext's dump, or the text of the
  exception it raises. -/
  loadsStruct : Json → StructType → List (String × StructType) → Except String String
  /-- `preview_finalize_execution(db, program, function_name, values)`. -/
  previewFinalizeExecution :
    Program → String → List Value → Except Fault (List PreviewOperation)
  /-- `str(e.original_exception)` of an `ExecuteError`. -/
  originalException : ExecuteError → String

section Route

variable (env : PreviewEnv)

/-- The text of an input the route cannot convert. -/
def invalidInput (index : Nat) : String :=
  "Invalid input for index " ++ toString index

/-- One iteration of the loop of lines 42-63: the input at `index`, converted at the type of the
finalize input, or the response the route returns instead. A missing input raises `IndexError`
inside the `try`, which the literal branch catches bare and the struct branch renders. -/
def loadFinalizeInput (program : Program) (inputs : List Json) (index : Nat) :
    PlaintextType → Except Fault (Except Response Value)
  | .literal primitiveType =>
    match inputs[index]?.bind (env.loadsPrimitive primitiveType) with
    | none => .ok (.error (.error (invalidInput index) 400))
    | some dump => .ok (.ok (.plaintext dump))
  | .struct name => match program.structs.lookup name with
    | none => .error .keyError
    | some structType =>
      let loaded : Except String String := match inputs[index]? with
        | none => .error "list index out of range"
        | some input => env.loadsStruct input structType program.structs
      match loaded with
      | .error message => .ok (.error (.error (invalidInput index ++ ": " ++ message ++
          " (experimental feature, if you believe this is an error please submit a feedback)") 400))
      | .ok dump => .ok (.ok (.plaintext dump))
  | .other => .ok (.error (.error "Unknown input type" 500))

/-- The loop of lines 42-63, from index `index` on. -/
def loadFinalizeInputs (program : Program) (inputs : List Json) :
    Nat → List PlaintextType → Except Fault (Except Response (List Value))
  | _, [] => .ok (.ok [])
  | index, type :: types => do
    match ← loadFinalizeInput env program inputs index type with
    | .error response => return .error response
    | .ok value =>
      return (← loadFinalizeInputs program inputs (index + 1) types).map (value :: ·)

/-- One iteration of the loop of lines 69-92: an update rendered as a dictionary; every other kind
of operation raises. -/
def mappingUpdate : PreviewOperation → Except Fault Json
  | .initializeMapping => throw (.runtimeError
      "InitializeMapping should not be returned by preview_finalize_execution (only used in deployments)")
  | .insertKeyValue => throw (.runtimeError
      "InsertKeyValue should not be returned by preview_finalize_execution (only used in tests)")
  | .updateKeyValue mappingId index keyId valueId mapping key value => pure (.obj
      [("type", .str "UpdateKeyValue"), ("mapping_id", .str mappingId), ("index", index),
        ("key_id", .str keyId), ("value_id", .str valueId), ("mapping", .str mapping),
        ("key", .str key), ("value", .str value)])
  | .removeKeyValue => throw .notImplementedError
  | .removeMapping => throw (.runtimeError
      "RemoveMapping should not be returned by preview_finalize_execution (only used in tests)")

/-- Lines 64-93: run the preview on the converted values and render its operations. -/
def previewUpdates (program : Program) (functionName : String) (values : List Value) :
    Except Fault Response :=
  match env.previewFinalizeExecution program functionName values with
  | .error (.executeError error) => .ok (.error ("Execution error on instruction \"" ++
      error.instruction ++ "\": " ++ env.originalException error) 400)
  | .error fault => .error fault
  | .ok operations => do
    let updates ← operations.mapM mappingUpdate
    return .json (.obj [("mapping_updates", .arr updates)])

/-- `preview_finalize_route`, on the decoded request body. -/
def previewFinalizeRoute (body : Json) : Except Fault Response := do
  let programId ← body.get "program_id"
  let transitionName ← body.get "transition_name"
  let inputs ← body.get "inputs"
  let some programId := programId.filter Json.truthy | return .error "Missing program_id" 400
  let some transitionName := transitionName.filter Json.truthy
    | return .error "Missing transition_name" 400
  match inputs with
  | none | some .null => return .error "Missing inputs (pass empty array for no input)" 400
  | some (.arr inputs) =>
    let some program := env.getProgram programId | return .error "Program not found" 404
    let functionName ← env.identifierLoads transitionName
    let some function := program.functions.lookup functionName
      | return .error "Transition not found" 404
    let some finalizeInputs := function.finalize
      | return .error "Transition does not have a finalizer" 400
    match ← loadFinalizeInputs env program inputs 0 finalizeInputs with
    | .error response => return response
    | .ok values => previewUpdates env program functionName values
  | some _ => return .error "Inputs must be an array" 400

end Route

end AleoFinalize.Api
