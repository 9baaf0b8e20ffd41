import AleoFinalize.Interpreter.Finalize

/-!
**What `finalize_execute` returns, part by part.**

* `PrimaryRan` — the primary execution raised nothing: the last transition outputs no future and
  nothing runs, or the finalizer ran the traced call on the transaction's caches and returned;
* `SettledBeforeFee` — lines 170-217: the primary execution and the dry-run fee of a rejected
  execution settle the operations and the reason, and leave the caches the fee of line 223 runs on;
* `ExecuteShape` — the expected list is the transaction's own, and the operations split as
  `primary ++ fee`: `primary` is what the primary execution returned when there is no reason and
  empty otherwise, `fee` is what the fee of line 223 returned, run on the caches the earlier steps
  left, for a public fee and empty otherwise, and only an accepted execution whose primary
  execution raised nothing has no reason;
* `BlamesOrder`, `LocatesFaults` — a finalizer that blames only transitions of the order it is
  given, and a primary execution whose faults are the finalizer's own, with every reason citing a
  position that holds the blamed transition.
-/

namespace AleoFinalize

/-- The primary execution of `target`, started from `cache`, raised nothing and returned
`primary`. -/
def PrimaryRan (env : Env) (storage : List DbWrite) (target : ExecuteTarget) (cache : Cache)
    (primary : List Operation) : Prop :=
  ∃ call, primaryCall env target.execution target.allowStateChange = .ok call ∧
    match call with
    | none => primary = []
    | some call => ∃ caches, runFinalizer env storage call ⟨cache, target.localCache⟩ =
        .ok primary caches

/-- Lines 170-217 of `finalize_execute` for `target` from `cache`: the primary execution, then the
dry-run fee of a rejected execution, settle the operations `settled.1` and the reason `settled.2`,
and leave `caches`, on which the fee of line 223 runs. -/
def SettledBeforeFee (env : Env) (storage : List DbWrite)
    (confirmedTransaction : ConfirmedTransaction) (target : ExecuteTarget) (cache : Cache)
    (settled : List Operation × Option String) (caches : Caches) : Prop :=
  ∃ call primary caches₁, primaryCall env target.execution target.allowStateChange = .ok call ∧
    primaryExecution env storage target.execution call ⟨cache, target.localCache⟩ =
      .ok primary caches₁ ∧
    rejectedFee env storage confirmedTransaction.isRejectedExecute target.allowStateChange
      target.fee primary caches₁ = .ok settled caches

/-- The output of a run of `finalize_execute` from `cache` to `final`, by the parts of its
operation list. -/
def ExecuteShape (env : Env) (storage : List DbWrite) (confirmedTransaction : ConfirmedTransaction)
    (cache : Cache) (output : FinalizeOutput) (final : Cache) : Prop :=
  output.expected = confirmedTransaction.finalize ∧
  ∃ target primary fee caches, executeTarget confirmedTransaction = .ok target ∧
    SettledBeforeFee env storage confirmedTransaction target cache (primary, output.rejectReason)
      caches ∧
    output.operations = primary ++ fee ∧
    (output.rejectReason = none →
      (∃ transaction, confirmedTransaction = .acceptedExecute transaction output.expected) ∧
      PrimaryRan env storage target cache primary) ∧
    (output.rejectReason ≠ none → primary = []) ∧
    (∀ feeValue, target.fee = some feeValue → feeValue.transition.functionName = "fee_public" →
      ∃ caches', executePublicFee env storage feeValue.transition true caches = .ok fee caches' ∧
        caches'.cache = final) ∧
    ((∀ feeValue, target.fee = some feeValue → feeValue.transition.functionName ≠ "fee_public") →
      fee = [] ∧ final = caches.cache)

/-- Every `ExecuteError` the finalizer raises blames a transition of the order it was given. -/
def BlamesOrder (executeFinalizer : ExecuteFinalizer) : Prop :=
  ∀ call storage cache localCache error,
    (executeFinalizer call storage cache localCache).result = .error (.executeError error) →
      ∃ t ∈ call.order, error.transitionId = some t

/-- The primary execution of `call` from `caches` localises its faults: the ids of its order are
transition ids of the execution, it raises only what the finalizer raised, and each reason of
line 198 cites a position holding the transition the `ExecuteError` blames. -/
def LocatesFaults (env : Env) (storage : List DbWrite) (execution : Execution)
    (call : FinalizerCall) (caches : Caches) : Prop :=
  (∀ t ∈ call.order, ∃ transition ∈ execution.transitions, transition.id = t) ∧
  (∀ fault final, primaryExecution env storage execution (some call) caches = .error fault final →
    runFinalizer env storage call caches = .error fault final) ∧
  (∀ operations reason final,
    primaryExecution env storage execution (some call) caches = .ok (operations, some reason) final →
      ∃ error index transition,
        runFinalizer env storage call caches = .error (.executeError error) final ∧
        execution.transitions[index]? = some transition ∧
        error.transitionId = some transition.id ∧ reason = executeErrorReason error index)

end AleoFinalize
