import AleoFinalize.Interpreter.Trace

/-!
**The transaction finalizers** (`load_input_from_arguments`, `_execute_public_fee`,
`finalize_deploy`, `finalize_execute`, lines 18-224), and the bootstrap of builtin programs
(`init_builtin_program`, lines 11-16).

Both finalizers act on the process-wide cache (`EStateM Fault Cache`) and read the committed
storage. Inside `finalize_execute` the state is the pair of dictionaries the finalizer adapter is
handed (`Caches`): the process-wide one and `local_mapping_cache`, which is the process-wide
dictionary itself for an accepted execution and a fresh `{}` for a rejected one. An exception
leaves both dictionaries as the adapter left them, as in Python.

`finalize_execute` is split along its code blocks:

* `executeTarget` — lines 148-167: the execution, `allow_state_change`, the local cache, the fee;
* `primaryCall` — lines 170-186: the adapter call of the primary execution (its async order comes
  from `build_async_order`), when the last transition outputs a future;
* `primaryExecution` — lines 187-199: run it; an `ExecuteError` becomes the reject reason;
* `rejectedFee` — lines 200-217: a rejected execution that ran cleanly charges its fee as a dry run;
* `finalFee` — lines 219-223: the public fee, with state changes allowed.
-/

namespace AleoFinalize

/-! ### Builtin programs -/

/-- The part of the database `init_builtin_program` touches: the stored programs, and the builtin
mappings initialized, oldest first, as `(mapping_id, program_id, mapping)`. -/
structure BuiltinDb where
  programs : List Program
  builtinMappings : List (Field × String × String)

/-- One iteration of the loop of `init_builtin_program` (lines 13-16): initialize the mapping, then
save the program if the database has none of its id. -/
def initBuiltinMapping (mappingIdOf : String → String → Field) (program : Program) (db : BuiltinDb)
    (mapping : String) : BuiltinDb :=
  let db := { db with
    builtinMappings := db.builtinMappings ++ [(mappingIdOf program.id mapping, program.id, mapping)] }
  if (getProgram db.programs program.id).isNone then { db with programs := db.programs ++ [program] }
  else db

/-- `init_builtin_program`: the loop over `program.mappings.keys()`. -/
def initBuiltinProgram (mappingIdOf : String → String → Field) (program : Program) (db : BuiltinDb) :
    BuiltinDb :=
  program.mappings.foldl (initBuiltinMapping mappingIdOf program) db

/-! ### Plumbing -/

/-- A computation that touches no state, inside a stateful one. -/
def fromExcept {σ α : Type} (result : Except Fault α) : EStateM Fault σ α := fun state =>
  match result with
  | .ok value => .ok value state
  | .error fault => .error fault state

/-- The two dictionaries `execute_finalizer` is handed. -/
structure Caches where
  cache : Cache
  localCache : LocalCache

/-- Run with `local_mapping_cache` bound to `localCache`; the local dictionary is dropped at the
end, the process-wide one kept, whether the run returns or raises. -/
def withLocalCache {α : Type} (localCache : LocalCache) (action : EStateM Fault Caches α) :
    EStateM Fault Cache α := fun cache =>
  match action ⟨cache, localCache⟩ with
  | .ok value caches => .ok value caches.cache
  | .error fault caches => .error fault caches.cache

/-- `await execute_finalizer(db, cur, finalize_state, call.order, set(), call.program, ...)`. -/
def runFinalizer (env : Env) (storage : List DbWrite) (call : FinalizerCall) :
    EStateM Fault Caches (List Operation) := fun caches =>
  let run := env.executeFinalizer call storage caches.cache caches.localCache
  let after : Caches := ⟨run.cache, match caches.localCache with
    | .processWide => .processWide
    | .own _ => .own run.localCache⟩
  match run.result with
  | .ok operations => .ok operations after
  | .error fault => .error fault after

/-! ### Fees and deployments -/

/-- `load_input_from_arguments`. -/
def loadInputFromArguments (arguments : List Argument) : List Value :=
  arguments.map fun
    | .plaintext plaintext => .plaintext plaintext
    | .future programId functionName arguments => .future ⟨programId, functionName, arguments⟩

/-- The finalizer call of a public fee (lines 22-34), or the fault raised on the way. -/
def feeCall (env : Env) (feeTransition : Transition) (allowStateChange : Bool) :
    Except Fault FinalizerCall := do
  if feeTransition.programId ≠ "credits.aleo" ∨ feeTransition.functionName ≠ "fee_public" then
    throw (.typeError "not a fee transition")
  let some output := feeTransition.outputs.head? | throw .indexError
  let .future futureOption := output | throw (.typeError "invalid fee transition output")
  let some future := futureOption | throw (.runtimeError "invalid fee transition output")
  let some program := getProgram env.programs future.programId
    | throw (.runtimeError "program not found")
  return ⟨[feeTransition.id], program, future.functionName,
    loadInputFromArguments future.arguments, allowStateChange⟩

/-- `_execute_public_fee`. -/
def executePublicFee (env : Env) (storage : List DbWrite) (feeTransition : Transition)
    (allowStateChange : Bool) : EStateM Fault Caches (List Operation) := do
  runFinalizer env storage (← fromExcept (feeCall env feeTransition allowStateChange))

/-- Lines 41-45: the fee transition of a deployment or of a fee transaction. -/
def deployFeeTransition : Transaction → Except Fault Transition
  | .deploy _ fee | .fee fee => .ok fee.transition
  | .execute .. => .error .notImplementedError

/-- Lines 46-49: a public fee is run with state changes allowed and a fresh local cache. -/
def deployFee (env : Env) (storage : List DbWrite) (transition : Transition) :
    EStateM Fault Cache (List Operation) :=
  if transition.functionName = "fee_public" then
    withLocalCache (.own Cache.empty) (executePublicFee env storage transition true)
  else pure []

/-- Lines 51-67: an accepted deployment appends one `InitializeMapping` per mapping of the program
and has no reason; any other kind keeps the fee's operations and gets a reason. -/
def deployOutput (env : Env) (confirmedTransaction : ConfirmedTransaction)
    (operations : List Operation) : Except Fault FinalizeOutput :=
  match confirmedTransaction with
  | .acceptedDeploy (.deploy deployment _) expected =>
    let program := deployment.program
    .ok ⟨expected, operations ++ program.mappings.map fun mapping =>
      .initializeMapping (env.mappingIdOf program.id mapping) program.id mapping, none⟩
  | .acceptedDeploy _ _ => .error .attributeError
  | _ => .ok ⟨confirmedTransaction.finalize, operations, some "(detailed reason not available)"⟩

/-- `finalize_deploy`. -/
def finalizeDeploy (env : Env) (storage : List DbWrite) (confirmedTransaction : ConfirmedTransaction) :
    EStateM Fault Cache FinalizeOutput := do
  let transition ← fromExcept (deployFeeTransition confirmedTransaction.transaction)
  let operations ← deployFee env storage transition
  fromExcept (deployOutput env confirmedTransaction operations)

/-! ### Executions -/

/-- What `finalize_execute` reads off the transaction (lines 148-167). -/
structure ExecuteTarget where
  execution : Execution
  allowStateChange : Bool
  localCache : LocalCache
  fee : Option Fee

/-- Lines 149-167. -/
def executeTarget : ConfirmedTransaction → Except Fault ExecuteTarget
  | .acceptedExecute transaction _ =>
    match transaction with
    | .execute execution fee => .ok ⟨execution, true, .processWide, fee⟩
    | _ => .error (.typeError "invalid execute transaction")
  | .rejectedExecute transaction rejected _ =>
    match rejected, transaction with
    | .execution execution, .fee fee => .ok ⟨execution, false, .own Cache.empty, some fee⟩
    | _, _ => .error (.typeError "invalid rejected execute transaction")
  | _ => .error .notImplementedError

/-- The adapter call of the primary execution (lines 170-186): `none` when the last transition
outputs no future. -/
def primaryCall (env : Env) (execution : Execution) (allowStateChange : Bool) :
    Except Fault (Option FinalizerCall) := do
  let some transition := execution.transitions.getLast? | throw .indexError
  let some maybeFutureOutput := transition.outputs.getLast? | return none
  let .future futureOption := maybeFutureOutput | return none
  let some future := futureOption | throw (.runtimeError "invalid future is None")
  let some program := getProgram env.programs future.programId
    | throw (.runtimeError "program not found")
  let transitionIds := execution.transitions.map (·.id)
  let asyncOrder ← buildAsyncOrder env.programs env.callGraph transitionIds program
    future.functionName
  return some ⟨asyncOrder, program, future.functionName,
    loadInputFromArguments future.arguments, allowStateChange⟩

/-- The `for ts in execution.transitions: ... break` search of lines 192-197: the position of the
first transition with the blamed id (`transitions.index(ts)` finds no earlier one, which would
carry the same id). -/
def transitionIndex (transitionId : Option TransitionID) : List Transition → Option Nat
  | [] => none
  | transition :: transitions =>
    if some transition.id = transitionId then some 0
    else (transitionIndex transitionId transitions).map (· + 1)

/-- The reject reason of line 198. -/
def executeErrorReason (error : ExecuteError) (index : Nat) : String :=
  "execute error: " ++ error.message ++ ", at transition #" ++ toString index ++
    ", instruction \"" ++ error.instruction ++ "\""

/-- The reject reason of line 208. -/
def feeErrorReason (error : ExecuteError) : String :=
  "execute error: " ++ error.message ++ ", at fee transition, instruction \"" ++
    error.instruction ++ "\""

/-- Lines 187-199: run the primary execution; an `ExecuteError` becomes a reject reason citing the
blamed transition, and the operations are dropped. -/
def primaryExecution (env : Env) (storage : List DbWrite) (execution : Execution) :
    Option FinalizerCall → EStateM Fault Caches (List Operation × Option String)
  | none => pure ([], none)
  | some call => fun caches =>
    match runFinalizer env storage call caches with
    | .ok operations caches => .ok (operations, none) caches
    | .error (.executeError error) caches =>
      match transitionIndex error.transitionId execution.transitions with
      | some index => .ok ([], some (executeErrorReason error index)) caches
      | none => .error (.runtimeError "rejected transition not found in transaction") caches
    | .error fault caches => .error fault caches

/-- Lines 200-217: a rejected execution whose primary execution raised nothing charges its fee as
a dry run, which decides the reason; the operations are dropped either way. -/
def rejectedFee (env : Env) (storage : List DbWrite) (rejected allowStateChange : Bool)
    (fee : Option Fee) :
    List Operation × Option String → EStateM Fault Caches (List Operation × Option String)
  | (operations, rejectReason) =>
    if rejected ∧ rejectReason = none then
      match fee with
      | none => throw .attributeError
      | some fee => fun caches =>
        if fee.transition.functionName = "fee_public" then
          match executePublicFee env storage fee.transition allowStateChange caches with
          | .ok _ caches => .ok ([], some "unknown reason") caches
          | .error (.executeError error) caches => .ok ([], some (feeErrorReason error)) caches
          | .error fault caches => .error fault caches
        else .ok ([], some "unknown reason") caches
    else pure (operations, rejectReason)

/-- Lines 219-223: a public fee is finalized with state changes allowed. -/
def finalFee (env : Env) (storage : List DbWrite) : Option Fee → EStateM Fault Caches (List Operation)
  | some fee =>
    if fee.transition.functionName = "fee_public" then
      executePublicFee env storage fee.transition true
    else pure []
  | none => pure []

/-- `finalize_execute`. -/
def finalizeExecute (env : Env) (storage : List DbWrite) (confirmedTransaction : ConfirmedTransaction) :
    EStateM Fault Cache FinalizeOutput := do
  let expected := confirmedTransaction.finalize
  let target ← fromExcept (executeTarget confirmedTransaction)
  let call ← fromExcept (primaryCall env target.execution target.allowStateChange)
  withLocalCache target.localCache do
    let primary ← primaryExecution env storage target.execution call
    let (operations, rejectReason) ← rejectedFee env storage
      confirmedTransaction.isRejectedExecute target.allowStateChange target.fee primary
    let feeOperations ← finalFee env storage target.fee
    return ⟨expected, operations ++ feeOperations, rejectReason⟩

end AleoFinalize
