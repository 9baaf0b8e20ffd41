import AleoFinalize.Spec.Execute

/-!
**What each step of `finalize_execute` can do.**

One lemma per step of `finalize_execute`, saying everything a run that
returns can have done, guards included; later proofs take runs apart with these and never unfold
the steps again.

* `finalizeExecute_eq_ok` — a run of `finalize_execute` returns exactly when its five steps do, each
  from the state the one before left;
* `primaryExecution_eq_ok` — no future (nothing run), a clean run of the finalizer, or an
  `ExecuteError` turned into the reason of line 198 with the operations dropped;
* `rejectedFee_eq_ok`, `finalFee_eq_ok` — the dry-run fee drops the operations and always gives a
  reason; the last fee runs only for a public fee.
-/

namespace AleoFinalize

variable {env : Env} {storage : List DbWrite}

/-! ### Plumbing -/

theorem fromExcept_eq_ok {σ α : Type} {result : Except Fault α} {state final : σ} {value : α} :
    fromExcept result state = .ok value final ↔ result = .ok value ∧ final = state := by
  cases result <;> simp [fromExcept, eq_comm]

theorem withLocalCache_eq_ok {α : Type} {localCache : LocalCache} {action : EStateM Fault Caches α}
    {cache final : Cache} {value : α} :
    withLocalCache localCache action cache = .ok value final ↔
      ∃ caches, action ⟨cache, localCache⟩ = .ok value caches ∧ caches.cache = final := by
  unfold withLocalCache
  cases action ⟨cache, localCache⟩ with
  | ok value caches =>
    exact ⟨fun returned => by cases returned; exact ⟨caches, rfl, rfl⟩,
      fun ⟨_, same, named⟩ => by cases same; simp [named]⟩
  | error => simp

/-- A fault of the adapter call is the finalizer's own. -/
theorem runFinalizer_result {call : FinalizerCall} {caches final : Caches} {fault : Fault}
    (raised : runFinalizer env storage call caches = .error fault final) :
    (env.executeFinalizer call storage caches.cache caches.localCache).result = .error fault := by
  unfold runFinalizer at raised
  cases result : (env.executeFinalizer call storage caches.cache caches.localCache).result with
  | ok => simp [result] at raised
  | error =>
    simp only [result, EStateM.Result.error.injEq] at raised
    rw [raised.1]

/-! ### `finalize_execute` -/

/-- **A run of `finalize_execute` returns exactly when its steps do**, each on the state the one
before left, starting from the process-wide cache and the transaction's local cache. -/
theorem finalizeExecute_eq_ok {confirmedTransaction : ConfirmedTransaction} {cache final : Cache}
    {output : FinalizeOutput} :
    finalizeExecute env storage confirmedTransaction cache = .ok output final ↔
      ∃ target call primary settled feeOperations caches₁ caches₂ caches₃,
        executeTarget confirmedTransaction = .ok target ∧
        primaryCall env target.execution target.allowStateChange = .ok call ∧
        primaryExecution env storage target.execution call ⟨cache, target.localCache⟩ =
          .ok primary caches₁ ∧
        rejectedFee env storage confirmedTransaction.isRejectedExecute target.allowStateChange
          target.fee primary caches₁ = .ok settled caches₂ ∧
        finalFee env storage target.fee caches₂ = .ok feeOperations caches₃ ∧
        final = caches₃.cache ∧
        output = ⟨confirmedTransaction.finalize, settled.1 ++ feeOperations, settled.2⟩ := by
  simp only [finalizeExecute, estate_bind_eq_ok, fromExcept_eq_ok, withLocalCache_eq_ok,
    estate_pure_apply, EStateM.Result.ok.injEq]
  constructor
  · rintro ⟨target, _, ⟨targetOk, rfl⟩, call, _, ⟨callOk, rfl⟩, caches, ⟨primary, caches₁,
      primaryOk, ⟨operations, reason⟩, caches₂, settled, feeOperations, caches₃, fee, rfl, rfl⟩,
      rfl⟩
    exact ⟨target, call, primary, _, feeOperations, caches₁, caches₂, caches₃, targetOk, callOk,
      primaryOk, settled, fee, rfl, rfl⟩
  · rintro ⟨target, call, primary, ⟨operations, reason⟩, feeOperations, caches₁, caches₂, caches₃,
      targetOk, callOk, primaryOk, settled, fee, rfl, rfl⟩
    exact ⟨target, _, ⟨targetOk, rfl⟩, call, _, ⟨callOk, rfl⟩, caches₃, ⟨primary, caches₁,
      primaryOk, _, caches₂, settled, feeOperations, caches₃, fee, rfl, rfl⟩, rfl⟩

/-- Lines 149-167: an accepted execution runs on the process-wide dictionary with state changes
allowed and its optional fee; a rejected one on a fresh dictionary, without, and with the fee of
its fee transaction. -/
theorem executeTarget_eq_ok {confirmedTransaction : ConfirmedTransaction} {target : ExecuteTarget}
    (planned : executeTarget confirmedTransaction = .ok target) :
    (∃ execution, confirmedTransaction =
        .acceptedExecute (.execute execution target.fee) confirmedTransaction.finalize ∧
      target = ⟨execution, true, .processWide, target.fee⟩) ∨
    (∃ execution fee, confirmedTransaction =
        .rejectedExecute (.fee fee) (.execution execution) confirmedTransaction.finalize ∧
      target = ⟨execution, false, .own Cache.empty, some fee⟩) := by
  match confirmedTransaction, planned with
  | .acceptedExecute (.execute execution fee) _, planned =>
    cases planned
    exact .inl ⟨execution, rfl, rfl⟩
  | .rejectedExecute (.fee fee) (.execution execution) _, planned =>
    cases planned
    exact .inr ⟨execution, fee, rfl, rfl⟩

/-- Lines 170-186: with a future in the last output of the last transition, the call of the
primary execution carries the order `build_async_order` traced. -/
theorem primaryCall_eq_some {execution : Execution} {allowStateChange : Bool}
    {transition : Transition} {future : Future} {program : Program}
    (last : execution.transitions.getLast? = some transition)
    (output : transition.outputs.getLast? = some (.future (some future)))
    (found : getProgram env.programs future.programId = some program) :
    primaryCall env execution allowStateChange =
      (buildAsyncOrder env.programs env.callGraph (execution.transitions.map (·.id)) program
        future.functionName).map fun asyncOrder =>
          some ⟨asyncOrder, program, future.functionName, loadInputFromArguments future.arguments,
            allowStateChange⟩ := by
  simp only [primaryCall, last, output, found]
  cases buildAsyncOrder env.programs env.callGraph (execution.transitions.map (·.id)) program
    future.functionName <;> rfl

/-- **The primary execution** (lines 187-199): nothing to run, a clean run of the finalizer, or an
`ExecuteError` that names a transition of the execution, turned into the reason of line 198 with the
operations dropped. -/
theorem primaryExecution_eq_ok {execution : Execution} {call : Option FinalizerCall}
    {caches final : Caches} {operations : List Operation} {rejectReason : Option String}
    (returned : primaryExecution env storage execution call caches =
      .ok (operations, rejectReason) final) :
    (call = none ∧ operations = [] ∧ rejectReason = none ∧ final = caches) ∨
    (∃ finalizerCall, call = some finalizerCall ∧
      runFinalizer env storage finalizerCall caches = .ok operations final ∧ rejectReason = none) ∨
    (∃ finalizerCall error index, call = some finalizerCall ∧
      runFinalizer env storage finalizerCall caches = .error (.executeError error) final ∧
      transitionIndex error.transitionId execution.transitions = some index ∧
      operations = [] ∧ rejectReason = some (executeErrorReason error index)) := by
  match call with
  | none =>
    cases returned
    exact .inl ⟨rfl, rfl, rfl, rfl⟩
  | some finalizerCall =>
    simp only [primaryExecution] at returned
    split at returned
    · cases returned
      exact .inr (.inl ⟨finalizerCall, rfl, ‹_›, rfl⟩)
    · split at returned
      · cases returned
        exact .inr (.inr ⟨finalizerCall, _, _, rfl, ‹_›, ‹_›, rfl, rfl⟩)
      · cases returned
    · cases returned

/-- **The dry-run fee** (lines 200-217): on a rejected execution whose primary execution gave no
reason it drops the operations and gives one; otherwise it changes nothing. -/
theorem rejectedFee_eq_ok {rejected allowStateChange : Bool} {fee : Option Fee}
    {primary settled : List Operation × Option String} {caches final : Caches}
    (returned : rejectedFee env storage rejected allowStateChange fee primary caches =
      .ok settled final) :
    (rejected = true ∧ primary.2 = none ∧ settled.1 = [] ∧ settled.2.isSome) ∨
    (¬ (rejected = true ∧ primary.2 = none) ∧ settled = primary ∧ final = caches) := by
  obtain ⟨operations, rejectReason⟩ := primary
  simp only [rejectedFee] at returned
  split_ifs at returned with dryRun
  · refine .inl ⟨dryRun.1, dryRun.2, ?_⟩
    match fee, returned with
    | some fee, returned =>
      simp only at returned
      split_ifs at returned
      · split at returned <;> cases returned <;> exact ⟨rfl, rfl⟩
      · cases returned
        exact ⟨rfl, rfl⟩
  · cases returned
    exact .inr ⟨dryRun, rfl, rfl⟩

/-- **The last fee** (lines 219-223): a public fee is run with state changes allowed; a private fee
or none adds nothing. -/
theorem finalFee_eq_ok {fee : Option Fee} {caches final : Caches} {operations : List Operation}
    (returned : finalFee env storage fee caches = .ok operations final) :
    (∃ feeValue, fee = some feeValue ∧ feeValue.transition.functionName = "fee_public" ∧
      executePublicFee env storage feeValue.transition true caches = .ok operations final) ∨
    ((∀ feeValue, fee = some feeValue → feeValue.transition.functionName ≠ "fee_public") ∧
      operations = [] ∧ final = caches) := by
  match fee with
  | none =>
    cases returned
    exact .inr ⟨fun _ absent => (nomatch absent), rfl, rfl⟩
  | some feeValue =>
    simp only [finalFee] at returned
    split_ifs at returned with public
    · exact .inl ⟨feeValue, rfl, public, returned⟩
    · cases returned
      exact .inr ⟨fun _ same => Option.some.inj same ▸ public, rfl, rfl⟩

end AleoFinalize
