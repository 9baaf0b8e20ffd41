import AleoFinalize.Interpreter.Finalize
import AleoFinalize.Proof.Block.Commit

/-!
**Which faults clear the process-wide cache.**

* `checkOperation_of_disagree` — a pair that disagrees in kind, mapping, key or value id fails its
  check with a `TypeError`;
* `validateOperations_typeError` — every `TypeError` of the validation loop leaves the cache empty,
  and `validateOperations_clears` — the first disagreeing pair raises one;
* `finalizeTransaction_length_mismatch` — but the length check of line 240 raises its
  `TypeError` outside that `try`, with the cache as the finalizer left it;
* `finalizeBlock_length_mismatch_keeps_cache` — so a deployment whose operations outnumber its
  expected list leaves a warm cache as it was.
-/

namespace AleoFinalize

/-- **A disagreeing pair fails its check with a `TypeError`.** -/
theorem checkOperation_of_disagree {expected : FinalizeOperation} {operation : Operation}
    (disagree : ¬ OperationMatches expected operation) :
    ∃ message, checkOperation expected operation = .error (.typeError message) := by
  unfold checkOperation
  split_ifs with kinds ids
  · exact ⟨_, rfl⟩
  · exact ⟨_, rfl⟩
  · simp only [ne_eq, not_not] at kinds ids
    cases expected with
    | updateKeyValue _ keyId valueId =>
      refine ⟨_, if_pos ?_⟩
      by_contra agree
      simp only [not_or, ne_eq, not_not] at agree
      exact disagree ⟨kinds, ids, agree.1.symm, agree.2.symm⟩
    | removeKeyValue _ keyId => exact ⟨_, if_pos fun same => disagree ⟨kinds, ids, same.symm⟩⟩
    | initializeMapping _ | insertKeyValue _ _ _ | removeMapping _ =>
      exact absurd ⟨kinds, ids, trivial⟩ disagree

/-- **Every `TypeError` of the validation loop leaves the process-wide cache empty.** -/
theorem validateOperations_typeError {pairs : List (FinalizeOperation × Operation)} {store final : Store}
    {message : String} (raised : validateOperations pairs store = .error (.typeError message) final) :
    final.cache = Cache.empty := by
  induction pairs with
  | nil => cases raised
  | cons pair pairs ih =>
    obtain ⟨expected, operation⟩ := pair
    rcases check : checkOperation expected operation with fault | ⟨⟩
    · cases fault <;> simp [validateOperations, check, Store.clearCache] at raised ⊢
      exact raised.2 ▸ rfl
    · simp only [validateOperations, check] at raised
      exact ih raised

/-- **The first disagreeing pair raises a `TypeError` and clears the cache.** -/
theorem validateOperations_clears {passed : List (FinalizeOperation × Operation)}
    (passes : ∀ pair ∈ passed, checkOperation pair.1 pair.2 = .ok ())
    {expected : FinalizeOperation} {operation : Operation}
    (disagree : ¬ OperationMatches expected operation)
    (rest : List (FinalizeOperation × Operation)) (store : Store) :
    ∃ message, validateOperations (passed ++ (expected, operation) :: rest) store =
      .error (.typeError message) store.clearCache := by
  induction passed with
  | nil =>
    obtain ⟨message, check⟩ := checkOperation_of_disagree disagree
    exact ⟨message, by simp [validateOperations, check]⟩
  | cons pair passed ih =>
    have passing := passes pair (List.mem_cons_self _ _)
    obtain ⟨message, raised⟩ := ih fun other member => passes other (List.mem_cons_of_mem _ member)
    exact ⟨message, by simp [validateOperations, passing, raised]⟩

/-! ### The length check does not clear the cache -/

/-- **The length check raises with the cache as the finalizer left it**: nothing clears it. -/
theorem finalizeTransaction_length_mismatch {finalizeDeploy finalizeExecute : TransactionFinalizer}
    {transaction : ConfirmedTransaction} {store : Store} {output : FinalizeOutput} {cache : Cache}
    (dispatch : dispatchFinalizer finalizeDeploy finalizeExecute transaction store.writes transaction
      store.cache = .ok output cache)
    (mismatch : output.expected.length ≠ output.operations.length) :
    finalizeTransaction finalizeDeploy finalizeExecute transaction store =
      .error (.typeError "invalid finalize operation length") { store with cache := cache } := by
  simp [finalizeTransaction, onCache, dispatch, mismatch]

/-- A program with one mapping and no functions. -/
def oneMappingProgram : Program := ⟨"token.aleo", [], ["balances"], by decide⟩

/-- An accepted deployment of it, paid by a private fee, whose expected list is empty. -/
def shortDeployBlock : Block :=
  ⟨[.acceptedDeploy (.deploy ⟨oneMappingProgram⟩ ⟨⟨7, "credits.aleo", "fee_private", []⟩⟩) []]⟩

/-- A process-wide cache holding mapping `0`. -/
def warmStore : Store := ⟨fun mappingId => if mappingId = 0 then some (fun _ => none) else none, []⟩

/-- Collaborators with no programs; the finalizer is never called on this block. -/
def quietEnv : Env :=
  ⟨[], fun _ _ => .ok [], fun _ _ => 5, fun _ _ cache _ => ⟨.ok [], cache, Cache.empty⟩⟩

/-- **The length mismatch leaves the cache untouched**: `finalize_block` raises
`TypeError("invalid finalize operation length")` with mapping `0` still cached. -/
theorem finalizeBlock_length_mismatch_keeps_cache :
    ∃ final, finalizeBlock (finalizeDeploy quietEnv) (finalizeExecute quietEnv) shortDeployBlock
        warmStore = .error (.typeError "invalid finalize operation length") final ∧
      (final.cache 0).isSome :=
  ⟨_, rfl, rfl⟩

end AleoFinalize
