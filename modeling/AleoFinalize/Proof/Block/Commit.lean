import AleoFinalize.Spec.Commit
import Mathlib.Data.List.Forall2

/-!
**Validate before commit, over whole block runs.**

* `checkOperation_ok` — a pair that passes the checks agrees field by field, and is of a kind
  `execute_operations` applies;
* `validateOperations_spec`, `validated_of_checks`, `executeOperations_commit` — the validation
  loop changes nothing when it passes, and then the list is validated; it writes nothing when it
  raises; a list of applicable operations is committed whole;
* `finalizeTransaction_spec` — **the step**: one transaction either is one step of `CommitRun`, or
  raises having written nothing;
* `finalizeTransactions_spec` — **the run**, by induction over the transactions.
-/

namespace AleoFinalize

variable {finalizeDeploy finalizeExecute : TransactionFinalizer}

/-! ### Checks, validation, application -/

/-- **A pair passing the checks agrees, and `execute_operations` applies it.** -/
theorem checkOperation_ok {expected : FinalizeOperation} {operation : Operation}
    (check : checkOperation expected operation = .ok ()) :
    OperationMatches expected operation ∧ operation.dbWrite ≠ none := by
  unfold checkOperation at check
  split_ifs at check with kinds ids
  cases expected <;> cases operation <;>
    simp_all [OperationMatches, Operation.dbWrite, FinalizeOperation.type, Operation.type,
      FinalizeOperation.mappingId, Operation.mappingId, Operation.keyId, Operation.valueId]

/-- Right-hand members of related lists inherit what the relation gives them. -/
theorem forall_mem_of_forall₂ {α β : Type} {relation : α → β → Prop} {property : β → Prop}
    {left : List α} {right : List β} (related : List.Forall₂ relation left right)
    (gives : ∀ a b, relation a b → property b) : ∀ b ∈ right, property b := by
  induction related with
  | nil => simp
  | cons head _ ih => exact List.forall_mem_cons.mpr ⟨gives _ _ head, ih⟩

theorem validateOperations_spec (pairs : List (FinalizeOperation × Operation)) (store : Store) :
    match validateOperations pairs store with
    | .ok () final => final = store ∧ ∀ pair ∈ pairs, checkOperation pair.1 pair.2 = .ok ()
    | .error _ final => final.writes = store.writes := by
  induction pairs with
  | nil => exact ⟨rfl, by simp⟩
  | cons pair pairs ih =>
    obtain ⟨expected, operation⟩ := pair
    rcases check : checkOperation expected operation with fault | ⟨⟩
    · cases fault <;> simp [validateOperations, check, Store.clearCache]
    · simp only [validateOperations, check]
      split at ih
      · exact ⟨ih.1, List.forall_mem_cons.mpr ⟨check, ih.2⟩⟩
      · exact ih

/-- **A passing validation loop validates**: equal lengths and every pair passing its checks. -/
theorem validated_of_checks {expected : List FinalizeOperation} {operations : List Operation}
    (lengths : expected.length = operations.length)
    (checks : ∀ pair ∈ expected.zip operations, checkOperation pair.1 pair.2 = .ok ()) :
    Validated expected operations := by
  have related : List.Forall₂ (fun expected operation => checkOperation expected operation = .ok ())
      expected operations :=
    List.forall₂_iff_zip.mpr ⟨lengths, fun member => checks _ member⟩
  exact ⟨lengths, related.imp fun _ _ check => (checkOperation_ok check).1,
    forall_mem_of_forall₂ related fun _ _ check => (checkOperation_ok check).2⟩

theorem executeOperation_eq (operation : Operation) (store : Store) :
    executeOperation operation store = match operation.dbWrite with
      | some write => .ok () (store.issue write)
      | none => .error .notImplementedError store := by
  cases operation <;> rfl

/-- **A list of applicable operations is committed whole**: `execute_operations` never reaches its
`NotImplementedError` branch on it. -/
theorem executeOperations_commit (operations : List Operation) (store : Store)
    (applicable : ∀ operation ∈ operations, operation.dbWrite ≠ none) :
    executeOperations operations store = .ok () (store.commit operations) := by
  induction operations generalizing store with
  | nil => simp [executeOperations, Store.commit]
  | cons operation operations ih =>
    obtain ⟨write, isWrite⟩ := Option.ne_none_iff_exists'.mp
      (applicable operation (List.mem_cons_self _ _))
    rw [executeOperations, estate_bind_apply, executeOperation_eq, isWrite]
    simp only [ih _ fun other member => applicable other (List.mem_cons_of_mem _ member)]
    simp [Store.commit, Store.issue, isWrite]

/-! ### The step and the run -/

/-- **One transaction of `finalize_block`**: either a step of `CommitRun` (its finalizer's output
validated, then committed) with its reject reason, or a fault with nothing written. -/
theorem finalizeTransaction_spec (transaction : ConfirmedTransaction) (store : Store) :
    match finalizeTransaction finalizeDeploy finalizeExecute transaction store with
    | .ok reason next => ∃ cache output,
        dispatchFinalizer finalizeDeploy finalizeExecute transaction store.writes transaction
          store.cache = .ok output cache ∧
        Validated output.expected output.operations ∧
        next = ({ store with cache := cache }).commit output.operations ∧
        reason = output.rejectReason
    | .error _ final => final.writes = store.writes := by
  simp only [finalizeTransaction, estate_bind_apply, onCache]
  rcases finalized : dispatchFinalizer finalizeDeploy finalizeExecute transaction store.writes
    transaction store.cache with ⟨output, cache⟩ | ⟨fault, cache⟩
  · by_cases lengths : output.expected.length = output.operations.length
    · have validation := validateOperations_spec (output.expected.zip output.operations)
        { store with cache := cache }
      simp only [lengths, ne_eq, not_true_eq_false, if_false, estate_bind_apply, estate_pure_apply]
      rcases validated : validateOperations (output.expected.zip output.operations)
        { store with cache := cache } with ⟨⟨⟩, final⟩ | ⟨fault, final⟩
      · rw [validated] at validation
        obtain ⟨rfl, checks⟩ := validation
        have valid := validated_of_checks lengths checks
        simp only [executeOperations_commit _ _ valid.applicable]
        exact ⟨cache, output, rfl, valid, rfl, rfl⟩
      · rw [validated] at validation
        exact validation
    · simp [lengths]
  · rfl

/-- **The run**: when the loop returns, it went through a `CommitRun` of all the transactions;
when it raises, it wrote exactly what a `CommitRun` of a strict prefix wrote. -/
theorem finalizeTransactions_spec (transactions : List ConfirmedTransaction)
    (rejectReasons : List (Option String)) (store : Store) :
    match finalizeTransactions finalizeDeploy finalizeExecute transactions rejectReasons store with
    | .ok reasons final => ∃ outputs,
        CommitRun finalizeDeploy finalizeExecute store transactions outputs final ∧
        reasons = rejectReasons ++ outputs.map (·.rejectReason)
    | .error _ final => ∃ committed outputs reached, committed < transactions.length ∧
        CommitRun finalizeDeploy finalizeExecute store (transactions.take committed) outputs reached ∧
        final.writes = reached.writes := by
  induction transactions generalizing rejectReasons store with
  | nil => exact ⟨[], .nil store, by simp⟩
  | cons transaction transactions ih =>
    have step := @finalizeTransaction_spec finalizeDeploy finalizeExecute transaction store
    simp only [finalizeTransactions, estate_bind_apply]
    rcases result : finalizeTransaction finalizeDeploy finalizeExecute transaction store
      with ⟨reason, next⟩ | ⟨fault, final⟩
    · rw [result] at step
      obtain ⟨cache, output, finalized, validated, rfl, rfl⟩ := step
      have rest := ih (rejectReasons ++ [output.rejectReason])
        ({ store with cache := cache }.commit output.operations)
      rcases restResult : finalizeTransactions finalizeDeploy finalizeExecute transactions
        (rejectReasons ++ [output.rejectReason]) ({ store with cache := cache }.commit
          output.operations) with ⟨reasons, final⟩ | ⟨fault, final⟩
      · simp only [restResult] at rest ⊢
        obtain ⟨outputs, run, rfl⟩ := rest
        exact ⟨output :: outputs, .cons finalized validated run, by simp⟩
      · simp only [restResult] at rest ⊢
        obtain ⟨committed, outputs, reached, short, run, writes⟩ := rest
        exact ⟨committed + 1, output :: outputs, reached, by simp [short],
          .cons finalized validated run, writes⟩
    · rw [result] at step
      exact ⟨0, [], store, by simp, .nil store, step⟩

/-! ### What a run commits -/

section Run

variable {store final : Store} {transactions : List ConfirmedTransaction}
  {outputs : List FinalizeOutput}

/-- A `CommitRun` writes the writes of its operation lists, in order. -/
theorem CommitRun.writes_eq (run : CommitRun finalizeDeploy finalizeExecute store transactions outputs final) :
    final.writes = store.writes ++ (outputs.flatMap (·.operations)).filterMap Operation.dbWrite := by
  induction run with
  | nil => simp
  | cons _ _ _ ih => simp [ih, Store.commit, List.filterMap_append]

theorem CommitRun.validated (run : CommitRun finalizeDeploy finalizeExecute store transactions outputs final) :
    ∀ output ∈ outputs, Validated output.expected output.operations := by
  induction run with
  | nil => simp
  | cons _ validated _ ih => exact List.forall_mem_cons.mpr ⟨validated, ih⟩

/-- Every operation list of a `CommitRun` is validated, and applied whole by `execute_operations`. -/
theorem CommitRun.applied (run : CommitRun finalizeDeploy finalizeExecute store transactions outputs final) :
    ∀ output ∈ outputs, Validated output.expected output.operations ∧
      ∀ before, executeOperations output.operations before =
        .ok () (before.commit output.operations) := fun output member =>
  ⟨run.validated output member, fun before =>
    executeOperations_commit _ before (run.validated output member).applicable⟩

theorem CommitRun.length_eq (run : CommitRun finalizeDeploy finalizeExecute store transactions outputs final) :
    outputs.length = transactions.length := by
  induction run with
  | nil => rfl
  | cons _ _ _ ih => simp [ih]

end Run

/-- **Validate before commit, over whole block runs.** Whatever the finalizers do, the storage
writes of `finalize_block` are those of the operation lists of a prefix of the block, in order,
each validated against its expected list and applied whole by `execute_operations`; the failing
transaction and the later ones write nothing; a normal return went through the whole block and
gives one reject reason per transaction, in block order. -/
theorem finalizeBlock_validates_before_commit (block : Block) (store : Store) :
    match finalizeBlock finalizeDeploy finalizeExecute block store with
    | .ok rejectReasons final => ∃ outputs,
        CommitRun finalizeDeploy finalizeExecute store block.transactions outputs final ∧
        final.writes = store.writes ++ (outputs.flatMap (·.operations)).filterMap Operation.dbWrite ∧
        (∀ output ∈ outputs, Validated output.expected output.operations ∧
          ∀ before, executeOperations output.operations before =
            .ok () (before.commit output.operations)) ∧
        outputs.length = block.transactions.length ∧
        rejectReasons = outputs.map (·.rejectReason)
    | .error _ final => ∃ committed outputs reached, committed < block.transactions.length ∧
        CommitRun finalizeDeploy finalizeExecute store (block.transactions.take committed) outputs
          reached ∧
        final.writes = store.writes ++ (outputs.flatMap (·.operations)).filterMap Operation.dbWrite ∧
        (∀ output ∈ outputs, Validated output.expected output.operations ∧
          ∀ before, executeOperations output.operations before =
            .ok () (before.commit output.operations)) := by
  have loop := @finalizeTransactions_spec finalizeDeploy finalizeExecute block.transactions [] store
  unfold finalizeBlock
  split at loop
  · obtain ⟨outputs, run, reasons⟩ := loop
    exact ⟨outputs, run, run.writes_eq, run.applied, run.length_eq, by simpa using reasons⟩
  · obtain ⟨committed, outputs, reached, short, run, writes⟩ := loop
    exact ⟨committed, outputs, reached, short, run, writes.trans run.writes_eq, run.applied⟩

end AleoFinalize
