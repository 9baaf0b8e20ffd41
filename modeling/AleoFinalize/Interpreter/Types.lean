import Mathlib.Data.List.Basic

/-!
**The data the finalize engine reads** (`interpreter/interpreter.py` and the `aleo_types`
classes it touches).

Every class keeps exactly the fields the interpreter reads:

* programs: `Program`, `Function`, the instructions and finalize commands the call-graph tracer
  scans, and the call graph `Program.call_graph` returns (`CallGraphNode`);
* the ledger: transitions, fees, executions, deployments, the four kinds of
  `ConfirmedTransaction`, blocks;
* operations: the expected `FinalizeOperation`s of the ledger, the operation dictionaries the
  finalizer returns (`Operation`), and the storage writes `execute_operations` issues (`DbWrite`);
* the mapping caches (`global_mapping_cache` and the local ones) and the interface of the
  finalizer adapter `execute_finalizer`, which lives outside this excerpt.

Field elements and transition ids are compared only for equality, so both are `Nat`.
-/

namespace AleoFinalize

/-- Field elements: mapping, key and value ids. -/
abbrev Field := Nat

/-- Transition ids. -/
abbrev TransitionID := Nat

/-! ### Exceptions -/

/-- `ExecuteError` of `interpreter.finalizer`: its text, the transition it blames (`None` when
raised outside a transition, as in `get_mapping_value`) and the instruction. -/
structure ExecuteError where
  message : String
  transitionId : Option TransitionID
  instruction : String
  deriving DecidableEq, Repr

/-- The Python exceptions the interpreter raises or lets pass. -/
inductive Fault where
  | typeError (message : String)
  | runtimeError (message : String)
  | notImplementedError
  | indexError
  | keyError
  | valueError
  | attributeError
  | executeError (error : ExecuteError)
  /-- `OverflowError`: an `int / int` whose quotient is too large for a float. -/
  | overflowError
  /-- Any other exception, raised inside a collaborator (the database, the finalizer). -/
  | external (name : String)
  deriving DecidableEq, Repr

/-- `return` in `Except` is `.ok`. -/
@[simp] theorem except_pure_eq {ε α : Type} (value : α) : (pure value : Except ε α) = .ok value :=
  rfl

@[simp] theorem except_ok_bind {ε α β : Type} (value : α) (next : α → Except ε β) :
    (Except.ok value >>= next) = next value := rfl

@[simp] theorem except_error_bind {ε α β : Type} (fault : ε) (next : α → Except ε β) :
    (Except.error fault >>= next) = .error fault := rfl

/-- Running a sequence in `EStateM`: the second part runs on the state the first returned. -/
@[simp] theorem estate_bind_apply {ε σ α β : Type} (first : EStateM ε σ α)
    (next : α → EStateM ε σ β) (state : σ) :
    (first >>= next) state = match first state with
      | .ok value state => next value state
      | .error fault state => .error fault state := rfl

/-- A sequence returns only when both parts do, the second from the state the first left. -/
theorem estate_bind_eq_ok {ε σ α β : Type} {first : EStateM ε σ α} {next : α → EStateM ε σ β}
    {state final : σ} {result : β} :
    (first >>= next) state = .ok result final ↔
      ∃ value middle, first state = .ok value middle ∧ next value middle = .ok result final := by
  rw [estate_bind_apply]
  cases first state with
  | ok value middle =>
    exact ⟨fun returned => ⟨_, _, rfl, returned⟩, fun ⟨_, _, same, returned⟩ => by
      cases same; exact returned⟩
  | error => simp

@[simp] theorem estate_pure_apply {ε σ α : Type} (value : α) (state : σ) :
    (pure value : EStateM ε σ α) state = .ok value state := rfl

@[simp] theorem estate_throw_apply {ε σ α : Type} (fault : ε) (state : σ) :
    (throw fault : EStateM ε σ α) state = .error fault state := rfl

/-! ### Programs -/

/-- Aleo identifiers and program ids never hold a `/`: the call graph joins program and function
with one (`"credits.aleo/transfer_public"`). -/
def NoSlash (name : String) : Prop := '/' ∉ name.data

instance (name : String) : Decidable (NoSlash name) :=
  inferInstanceAs (Decidable ('/' ∉ name.data))

/-- `LocatorRegister` (`rN`) and `AccessRegister` (`rN.field`). -/
inductive Register where
  | locatorRegister (locator : Nat)
  | accessRegister (locator : Nat) (accesses : List Nat)
  deriving DecidableEq, Repr

/-- The `locator` attribute both register classes carry. -/
def Register.locator : Register → Nat
  | .locatorRegister locator => locator
  | .accessRegister locator _ => locator

/-- An instruction operand: a register, or anything else (a literal, `self.signer`, ...). -/
inductive Operand where
  | register (register : Register)
  | other
  deriving DecidableEq, Repr

/-- `LocatorCallOperator` (`program.aleo/function`) or a call inside the program. -/
inductive CallOperator where
  | locator (programId resource : String)
  | resource (resource : String)
  deriving DecidableEq, Repr

/-- The instructions of a function body, as far as the tracer tells them apart. -/
inductive Instruction where
  | call (operator : CallOperator) (destinations : List Register)
  | async (operands : List Operand)
  | other (destinations : List Register)
  deriving DecidableEq, Repr

/-- Finalize commands: `await rN`, or any other command. -/
inductive Command where
  | await (register : Register)
  | other
  deriving DecidableEq, Repr

structure Finalize where
  commands : List Command
  deriving DecidableEq, Repr

structure Function where
  name : String
  instructions : List Instruction
  finalize : Option Finalize
  name_valid : NoSlash name

structure Program where
  id : String
  functions : List Function
  /-- The keys of `program.mappings`, in declaration order. -/
  mappings : List String
  id_valid : NoSlash id

/-- `program.functions[name]`: the function of that name. -/
def Program.function? (program : Program) (name : String) : Option Function :=
  program.functions.find? (·.name = name)

/-- `get_program(db, id)`: the deployed program of that id. -/
def getProgram (programs : List Program) (id : String) : Option Program :=
  programs.find? (·.id = id)

theorem Program.function?_name {program : Program} {name : String} {function : Function}
    (found : program.function? name = some function) : function.name = name := by
  simpa using List.find?_some found

theorem getProgram_id {programs : List Program} {id : String} {program : Program}
    (found : getProgram programs id = some program) : program.id = id := by
  simpa using List.find?_some found

/-- A node of `Program.call_graph`: the position of its transition in the transaction, the
callee as `"program/function"`, and one child per external call of the callee. -/
structure CallGraphNode where
  index : Nat
  name : String
  calls : List CallGraphNode
  deriving Repr

theorem CallGraphNode.sizeOf_lt_of_mem {node child : CallGraphNode} (member : child ∈ node.calls) :
    sizeOf child < sizeOf node := by
  cases node with
  | mk index name calls =>
    have inCalls : sizeOf child < sizeOf calls := List.sizeOf_lt_of_mem member
    simp only [CallGraphNode.mk.sizeOf_spec]
    omega

/-! ### The ledger -/

/-- A future's arguments (`PlaintextArgument`, `FutureArgument`). -/
inductive Argument where
  | plaintext (plaintext : String)
  | future (programId functionName : String) (arguments : List Argument)

structure Future where
  programId : String
  functionName : String
  arguments : List Argument

/-- Finalize inputs (`PlaintextValue`, `FutureValue`). -/
inductive Value where
  | plaintext (plaintext : String)
  | future (future : Future)

/-- A transition output: `FutureTransitionOutput` (whose future is an `Option`), or any other. -/
inductive TransitionOutput where
  | future (future : Option Future)
  | other

structure Transition where
  id : TransitionID
  programId : String
  functionName : String
  outputs : List TransitionOutput

structure Fee where
  transition : Transition

structure Execution where
  transitions : List Transition

structure Deployment where
  program : Program

/-- `DeployTransaction`, `ExecuteTransaction` (whose fee is optional) and `FeeTransaction`. -/
inductive Transaction where
  | deploy (deployment : Deployment) (fee : Fee)
  | execute (execution : Execution) (fee : Option Fee)
  | fee (fee : Fee)

/-- `RejectedDeployment` and `RejectedExecution`. -/
inductive Rejected where
  | deployment (deployment : Deployment)
  | execution (execution : Execution)

/-- The expected operations of the ledger, by class (`FinalizeOperation` subclasses). -/
inductive FinalizeOperation where
  | initializeMapping (mappingId : Field)
  | insertKeyValue (mappingId keyId valueId : Field)
  | updateKeyValue (mappingId keyId valueId : Field)
  | removeKeyValue (mappingId keyId : Field)
  | removeMapping (mappingId : Field)
  deriving DecidableEq, Repr

/-- `AcceptedDeploy`, `AcceptedExecute`, `RejectedDeploy`, `RejectedExecute`. -/
inductive ConfirmedTransaction where
  | acceptedDeploy (transaction : Transaction) (finalize : List FinalizeOperation)
  | acceptedExecute (transaction : Transaction) (finalize : List FinalizeOperation)
  | rejectedDeploy (transaction : Transaction) (rejected : Rejected)
      (finalize : List FinalizeOperation)
  | rejectedExecute (transaction : Transaction) (rejected : Rejected)
      (finalize : List FinalizeOperation)

/-- `confirmed_transaction.transaction`. -/
def ConfirmedTransaction.transaction : ConfirmedTransaction → Transaction
  | .acceptedDeploy transaction _ | .acceptedExecute transaction _
  | .rejectedDeploy transaction _ _ | .rejectedExecute transaction _ _ => transaction

/-- `isinstance(confirmed_transaction, RejectedExecute)`. -/
def ConfirmedTransaction.isRejectedExecute : ConfirmedTransaction → Bool
  | .rejectedExecute .. => true
  | _ => false

/-- `confirmed_transaction.finalize`. -/
def ConfirmedTransaction.finalize : ConfirmedTransaction → List FinalizeOperation
  | .acceptedDeploy _ finalize | .acceptedExecute _ finalize
  | .rejectedDeploy _ _ finalize | .rejectedExecute _ _ finalize => finalize

structure Block where
  transactions : List ConfirmedTransaction

/-! ### Operations -/

/-- `FinalizeOperation.Type`. -/
inductive OpType where
  | initializeMapping
  | insertKeyValue
  | updateKeyValue
  | removeKeyValue
  | removeMapping
  deriving DecidableEq, Repr

def FinalizeOperation.type : FinalizeOperation → OpType
  | .initializeMapping .. => .initializeMapping
  | .insertKeyValue .. => .insertKeyValue
  | .updateKeyValue .. => .updateKeyValue
  | .removeKeyValue .. => .removeKeyValue
  | .removeMapping .. => .removeMapping

def FinalizeOperation.mappingId : FinalizeOperation → Field
  | .initializeMapping mappingId | .insertKeyValue mappingId .. | .updateKeyValue mappingId ..
  | .removeKeyValue mappingId .. | .removeMapping mappingId => mappingId

/-- The operation dictionaries the finalizer returns and `finalize_deploy` builds, one shape per
`"type"`; `key` and `value` are held as their dumps. -/
inductive Operation where
  | initializeMapping (mappingId : Field) (programId mapping : String)
  | insertKeyValue (mappingId keyId valueId : Field)
  | updateKeyValue (mappingId keyId valueId : Field) (key value programName mappingName : String)
      (height : Nat) (fromTransaction : Bool)
  | removeKeyValue (mappingId keyId : Field) (key programName mappingName : String)
      (height : Nat) (fromTransaction : Bool)
  | removeMapping (mappingId : Field)
  deriving DecidableEq, Repr

/-- `o["type"]`. -/
def Operation.type : Operation → OpType
  | .initializeMapping .. => .initializeMapping
  | .insertKeyValue .. => .insertKeyValue
  | .updateKeyValue .. => .updateKeyValue
  | .removeKeyValue .. => .removeKeyValue
  | .removeMapping .. => .removeMapping

/-- `o["mapping_id"]`. -/
def Operation.mappingId : Operation → Field
  | .initializeMapping mappingId .. | .insertKeyValue mappingId .. | .updateKeyValue mappingId ..
  | .removeKeyValue mappingId .. | .removeMapping mappingId => mappingId

/-- `o["key_id"]`, for the dictionaries that have one. -/
def Operation.keyId : Operation → Option Field
  | .insertKeyValue _ keyId _ | .updateKeyValue _ keyId .. | .removeKeyValue _ keyId .. => some keyId
  | _ => none

/-- `o["value_id"]`, for the dictionaries that have one. -/
def Operation.valueId : Operation → Option Field
  | .insertKeyValue _ _ valueId | .updateKeyValue _ _ valueId .. => some valueId
  | _ => none

/-- The storage writes of the `Database` (`initialize_mapping`, `update_mapping_key_value`,
`remove_mapping_key_value`), with their arguments. -/
inductive DbWrite where
  | initializeMapping (mappingId : Field) (programId mapping : String)
  | updateMappingKeyValue (programName mappingName : String) (mappingId keyId valueId : Field)
      (key value : String) (height : Nat) (fromTransaction : Bool)
  | removeMappingKeyValue (programName mappingName : String) (mappingId keyId : Field)
      (key : String) (height : Nat) (fromTransaction : Bool)
  deriving DecidableEq, Repr

/-- What `finalize_deploy` and `finalize_execute` return: the expected operations, the actual ones
and the reject reason. -/
structure FinalizeOutput where
  expected : List FinalizeOperation
  operations : List Operation
  rejectReason : Option String

/-! ### Caches and the finalizer adapter -/

/-- One cached entry: `{"key": ..., "value": ...}`. -/
structure CacheEntry where
  key : String
  value : Value

/-- `MappingCacheDict`: key id to entry. -/
abbrev MappingCacheDict := Field → Option CacheEntry

/-- A mapping cache (`dict[Field, MappingCacheDict]`), such as `global_mapping_cache`. -/
abbrev Cache := Field → Option MappingCacheDict

/-- The empty dictionary `{}`. -/
def Cache.empty : Cache := fun _ => none

/-- The `local_mapping_cache` handed to the finalizer: the process-wide dictionary itself
(`local_mapping_cache = mapping_cache`), or a dictionary of its own. -/
inductive LocalCache where
  | processWide
  | own (entries : Cache)

/-- The arguments of an `execute_finalizer` call that differ between its call sites (the database,
cursor and block state are fixed for a block, the rejected set is always `set()`). -/
structure FinalizerCall where
  order : List TransitionID
  program : Program
  functionName : String
  inputs : List Value
  allowStateChange : Bool

/-- What one call of the finalizer does: its outcome, and the two dictionaries as it leaves them
(the local one is read back only when it is a dictionary of its own). -/
structure FinalizerRun where
  result : Except Fault (List Operation)
  cache : Cache
  localCache : Cache

/-- `execute_finalizer`: a function of its call, the committed storage writes, the process-wide
cache and the local cache it is handed. -/
abbrev ExecuteFinalizer := FinalizerCall → List DbWrite → Cache → LocalCache → FinalizerRun

/-- The collaborators of the finalize engine: the deployed programs (`get_program`), the static call
graph (`Program.call_graph`), mapping ids (`cached_get_mapping_id`) and the finalizer. -/
structure Env where
  programs : List Program
  callGraph : Program → String → Except Fault (List CallGraphNode)
  mappingIdOf : String → String → Field
  executeFinalizer : ExecuteFinalizer

end AleoFinalize
