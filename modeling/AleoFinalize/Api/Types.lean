import Mathlib.Logic.Function.Basic
import AleoFinalize.Interpreter.Types

/-!
**The data of the JSON API** (`api/mapping_routes.py`, `api/execute_routes.py`), and the
read-through program cache the mapping routes share.

* `Json` and `Response` — what a route hands to `JSONResponse`: a body, and the status code, 200
  unless the route names another;
* `Program` — the fields of a loaded `Program` the routes read: each mapping's key type, the
  structs, and the plaintext types of each function's finalize inputs;
* `ProgramCache` and `readThrough` — the `try: program_cache[program_id] except KeyError:` block
  every mapping route opens with: a cached program is used as it is, a missing one is read from
  the database and cached only when the database has it.

Loading (`Program.load`, `Identifier.loads`) is taken as the identity on the modelled data, as in
the interpreter's model.
-/

namespace AleoFinalize.Api

/-! ### Responses -/

/-- JSON values, as the routes build them and as `request.json()` decodes a body. -/
inductive Json where
  | null
  | bool (value : Bool)
  | int (value : Int)
  | str (value : String)
  | arr (items : List Json)
  | obj (fields : List (String × Json))
  deriving Repr

/-- Python's truth value of a decoded JSON value (`if not program_id`). -/
def Json.truthy : Json → Bool
  | .null => false
  | .bool value => value
  | .int value => value ≠ 0
  | .str value => !value.isEmpty
  | .arr items => !items.isEmpty
  | .obj fields => !fields.isEmpty

/-- `json.get(key)` on a decoded body: the last field of that name (as `json.loads` keeps it), and
`AttributeError` when the body is not an object. -/
def Json.get : Json → String → Except Fault (Option Json)
  | .obj fields, key => .ok (fields.reverse.lookup key)
  | _, _ => .error .attributeError

/-- An optional integer as a JSON value: the integer, or `null` for `None`. -/
def Json.ofOption : Option Int → Json
  | some value => .int value
  | none => .null

/-- A `JSONResponse`: its body and status code. -/
structure Response where
  body : Json
  statusCode : Nat
  deriving Repr

/-- `JSONResponse(body)`. -/
def Response.json (body : Json) : Response := ⟨body, 200⟩

/-- `JSONResponse({"error": message}, status_code=statusCode)`. -/
def Response.error (message : String) (statusCode : Nat) : Response :=
  ⟨.obj [("error", .str message)], statusCode⟩

@[simp] theorem Response.error_statusCode (message : String) (statusCode : Nat) :
    (Response.error message statusCode).statusCode = statusCode := rfl

/-- Python's truth value of a query parameter: present and not empty. -/
def truthy : Option String → Bool
  | some value => !value.isEmpty
  | none => false

/-! ### Programs -/

/-- `PlaintextType`: a literal of a primitive type, a struct by name, or any other kind. -/
inductive PlaintextType where
  | literal (primitiveType : String)
  | struct (name : String)
  | other
  deriving DecidableEq, Repr

/-- A struct declaration: its members and their types. -/
structure StructType where
  members : List (String × PlaintextType)
  deriving DecidableEq, Repr

/-- A function, as far as the preview route reads it: the plaintext types of the inputs of its
finalize block, when it has one. -/
structure Function where
  finalize : Option (List PlaintextType)
  deriving DecidableEq, Repr

/-- A loaded program: `program.mappings` (name to key type), `program.structs` and
`program.functions`, in declaration order. -/
structure Program where
  mappings : List (String × PlaintextType)
  structs : List (String × StructType)
  functions : List (String × Function)
  deriving DecidableEq, Repr

/-! ### The program cache -/

/-- `program_cache`: program id to loaded program. -/
abbrev ProgramCache := String → Option Program

/-- The empty dictionary. -/
def ProgramCache.empty : ProgramCache := fun _ => none

/-- Lines 27-34 of `mapping_route` (and the same block of the other mapping routes): the cached
program, or the database's copy (`db.get_program` then `Program.load`), cached when the database
has one; `none` answers "Program not found". -/
def readThrough (getProgram : String → Option Program) (programId : String) :
    EStateM Fault ProgramCache (Option Program) := fun cache =>
  match cache programId with
  | some program => .ok (some program) cache
  | none => match getProgram programId with
    | none => .ok none cache
    | some program => .ok (some program) (Function.update cache programId (some program))

/-- The outcome a client sees: the response, or the exception a route let escape (which the server
turns into a 500). -/
def outcome {σ α : Type} : EStateM.Result Fault σ α → Except Fault α
  | .ok value _ => .ok value
  | .error fault _ => .error fault

/-- The state a route leaves, whether it answered or raised. -/
def finalState {σ α : Type} : EStateM.Result Fault σ α → σ
  | .ok _ state => state
  | .error _ state => state

end AleoFinalize.Api
