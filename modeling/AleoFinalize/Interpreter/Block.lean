import AleoFinalize.Interpreter.Types

/-!
**The block finalizer** (`finalize_block`, `execute_operations`, lines 226-302).

The state is the process-wide cache together with the storage writes issued so far (`Store`).
`finalize_block` takes the two per-transaction finalizers as arguments: they read the committed
writes and act on the process-wide cache, and only `execute_operations` writes storage.

* `checkOperation` — the checks of one `(e, o)` pair of the validation loop (lines 248-261);
* `validateOperations` — the loop, whose `except TypeError` clears the process-wide cache before
  the fault propagates (lines 262-267);
* `executeOperation` / `executeOperations` — the storage write of each operation, in order;
* `finalizeTransaction` / `finalizeTransactions` — the body of the loop over the block and the loop.
-/

namespace AleoFinalize

/-- The process-wide cache and the storage writes issued, oldest first. -/
structure Store where
  cache : Cache
  writes : List DbWrite

/-- A per-transaction finalizer as `finalize_block` calls it: it reads the committed writes and
acts on the process-wide cache. -/
abbrev TransactionFinalizer :=
  List DbWrite → ConfirmedTransaction → EStateM Fault Cache FinalizeOutput

/-! ### Validation -/

/-- The checks of one pair of the validation loop (lines 248-261). `o["key_id"]` is read only
once the types agree, so the dictionary has the key. -/
def checkOperation (expected : FinalizeOperation) (operation : Operation) : Except Fault Unit :=
  if expected.type ≠ operation.type then .error (.typeError "invalid finalize operation type")
  else if expected.mappingId ≠ operation.mappingId then
    .error (.typeError "invalid finalize mapping id")
  else match expected with
    | .initializeMapping _ => .ok ()
    | .updateKeyValue _ keyId valueId =>
      if some keyId ≠ operation.keyId ∨ some valueId ≠ operation.valueId then
        .error (.typeError "invalid finalize update key operation")
      else .ok ()
    | .removeKeyValue _ keyId =>
      if some keyId ≠ operation.keyId then .error (.typeError "invalid finalize remove key operation")
      else .ok ()
    | _ => .error .notImplementedError

/-- `global_mapping_cache.clear()`. -/
def Store.clearCache (store : Store) : Store := { store with cache := Cache.empty }

/-- The validation loop (lines 246-267): a `TypeError` clears the process-wide cache and is raised
again. -/
def validateOperations : List (FinalizeOperation × Operation) → EStateM Fault Store Unit
  | [] => pure ()
  | (expected, operation) :: pairs => fun store =>
    match checkOperation expected operation with
    | .ok () => validateOperations pairs store
    | .error (.typeError message) => .error (.typeError message) store.clearCache
    | .error fault => .error fault store

/-! ### Applying operations -/

/-- Issue one storage write. -/
def Store.issue (store : Store) (write : DbWrite) : Store :=
  { store with writes := store.writes ++ [write] }

/-- One case of the `match operation["type"]` of `execute_operations`. -/
def executeOperation : Operation → EStateM Fault Store Unit
  | .initializeMapping mappingId programId mapping => fun store =>
    .ok () (store.issue (.initializeMapping mappingId programId mapping))
  | .updateKeyValue mappingId keyId valueId key value programName mappingName height
      fromTransaction => fun store =>
    .ok () (store.issue (.updateMappingKeyValue programName mappingName mappingId keyId valueId key
      value height fromTransaction))
  | .removeKeyValue mappingId keyId key programName mappingName height fromTransaction =>
    fun store =>
    .ok () (store.issue (.removeMappingKeyValue programName mappingName mappingId keyId key height
      fromTransaction))
  | _ => throw .notImplementedError

/-- `execute_operations`. -/
def executeOperations : List Operation → EStateM Fault Store Unit
  | [] => pure ()
  | operation :: operations => do
    executeOperation operation
    executeOperations operations

/-! ### The loop over the block -/

/-- A finalizer run on the store: it sees the committed writes and the process-wide cache. -/
def onCache {α : Type} (action : List DbWrite → EStateM Fault Cache α) : EStateM Fault Store α :=
  fun store =>
    match action store.writes store.cache with
    | .ok value cache => .ok value { store with cache := cache }
    | .error fault cache => .error fault { store with cache := cache }

/-- Lines 233-238: the deploy kinds go to `finalize_deploy`, the execute kinds to
`finalize_execute` (the four kinds are all there are, so the `else` is unreachable). -/
def dispatchFinalizer (finalizeDeploy finalizeExecute : TransactionFinalizer) :
    ConfirmedTransaction → TransactionFinalizer
  | .acceptedDeploy .. | .rejectedDeploy .. => finalizeDeploy
  | .acceptedExecute .. | .rejectedExecute .. => finalizeExecute

/-- The body of the loop of `finalize_block` (lines 231-270) for one transaction. -/
def finalizeTransaction (finalizeDeploy finalizeExecute : TransactionFinalizer)
    (confirmedTransaction : ConfirmedTransaction) : EStateM Fault Store (Option String) := do
  let output ← onCache fun storage =>
    dispatchFinalizer finalizeDeploy finalizeExecute confirmedTransaction storage
      confirmedTransaction
  if output.expected.length ≠ output.operations.length then
    throw (.typeError "invalid finalize operation length")
  validateOperations (output.expected.zip output.operations)
  executeOperations output.operations
  return output.rejectReason

/-- The loop of `finalize_block`, appending to `reject_reasons`. -/
def finalizeTransactions (finalizeDeploy finalizeExecute : TransactionFinalizer) :
    List ConfirmedTransaction → List (Option String) → EStateM Fault Store (List (Option String))
  | [], rejectReasons => pure rejectReasons
  | confirmedTransaction :: confirmedTransactions, rejectReasons => do
    let rejectReason ← finalizeTransaction finalizeDeploy finalizeExecute confirmedTransaction
    finalizeTransactions finalizeDeploy finalizeExecute confirmedTransactions
      (rejectReasons ++ [rejectReason])

/-- `finalize_block`. -/
def finalizeBlock (finalizeDeploy finalizeExecute : TransactionFinalizer) (block : Block) :
    EStateM Fault Store (List (Option String)) :=
  finalizeTransactions finalizeDeploy finalizeExecute block.transactions []

end AleoFinalize
