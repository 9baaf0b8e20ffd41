import AleoFinalize.Interpreter.Block

/-!
**What the block finalizer is for: validate, then commit, one transaction at a time.**

* `OperationMatches` — an actual operation agrees with the expected one: same kind and mapping id,
  for `UpdateKeyValue` also the key and value ids, for `RemoveKeyValue` also the key id.
* `Operation.dbWrite` — the storage write an operation stands for, for the three kinds the applier
  handles.
* `Validated` — equal lengths, pairwise agreement, and only kinds the applier handles.
* `CommitRun` — the block run of the spec: each transaction's finalizer runs on the store the
  earlier ones left, its operations are validated, and their writes are appended to storage.
-/

namespace AleoFinalize

/-- An actual operation agrees with the expected one, field by field. -/
def OperationMatches (expected : FinalizeOperation) (operation : Operation) : Prop :=
  expected.type = operation.type ∧ expected.mappingId = operation.mappingId ∧
    match expected with
    | .updateKeyValue _ keyId valueId => operation.keyId = some keyId ∧ operation.valueId = some valueId
    | .removeKeyValue _ keyId => operation.keyId = some keyId
    | _ => True

/-- The storage write an operation stands for; `none` for the kinds `execute_operations` rejects. -/
def Operation.dbWrite : Operation → Option DbWrite
  | .initializeMapping mappingId programId mapping => some (.initializeMapping mappingId programId mapping)
  | .updateKeyValue mappingId keyId valueId key value programName mappingName height
      fromTransaction =>
    some (.updateMappingKeyValue programName mappingName mappingId keyId valueId key value height
      fromTransaction)
  | .removeKeyValue mappingId keyId key programName mappingName height fromTransaction =>
    some (.removeMappingKeyValue programName mappingName mappingId keyId key height fromTransaction)
  | _ => none

/-- A validated operation list: as long as the expected one, agreeing position by position, and
made only of kinds `execute_operations` applies. -/
structure Validated (expected : List FinalizeOperation) (operations : List Operation) : Prop where
  length_eq : expected.length = operations.length
  agree : List.Forall₂ OperationMatches expected operations
  applicable : ∀ operation ∈ operations, operation.dbWrite ≠ none

/-- The store after committing `operations`: their writes appended, in order. -/
def Store.commit (store : Store) (operations : List Operation) : Store :=
  { store with writes := store.writes ++ operations.filterMap Operation.dbWrite }

/-- The block run of the spec over `transactions`, from `store` to `final`, with the finalizers'
outputs in turn. -/
inductive CommitRun (finalizeDeploy finalizeExecute : TransactionFinalizer) :
    Store → List ConfirmedTransaction → List FinalizeOutput → Store → Prop
  | nil (store : Store) : CommitRun finalizeDeploy finalizeExecute store [] [] store
  | cons {store : Store} {cache : Cache} {transaction : ConfirmedTransaction}
      {output : FinalizeOutput} {transactions : List ConfirmedTransaction}
      {outputs : List FinalizeOutput} {final : Store} :
      dispatchFinalizer finalizeDeploy finalizeExecute transaction store.writes transaction
        store.cache = .ok output cache →
      Validated output.expected output.operations →
      CommitRun finalizeDeploy finalizeExecute ({ store with cache := cache }.commit output.operations)
        transactions outputs final →
      CommitRun finalizeDeploy finalizeExecute store (transaction :: transactions) (output :: outputs)
        final

end AleoFinalize
