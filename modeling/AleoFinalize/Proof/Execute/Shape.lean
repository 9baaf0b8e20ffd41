import AleoFinalize.Spec.Execute
import AleoFinalize.Proof.Execute.Steps
import AleoFinalize.Proof.Tracer.AwaitOrder

/-!
**The operations of a transaction.**

* `settled_reason_none` / `settled_of_reason` — after the dry-run fee, no reason means an accepted
  execution whose primary execution gave none, and a reason means no primary operation is left;
* `finalizeExecute_shape` — every run of `finalize_execute` that returns has the shape
  `ExecuteShape`: no operation of a failed or rejected primary execution, or of the dry-run fee, is
  ever returned, and the fee operations are those of line 223 on the caches the earlier steps left;
* `primaryCall_hello` — an execution of `hello.aleo/main` with a future: its primary call, which
  later modules run through `finalize_execute`.
-/

namespace AleoFinalize

variable {env : Env} {storage : List DbWrite}

/-! ### The reason after the dry-run fee -/

/-- No reason after the dry-run fee: the execution is accepted and its primary execution ran
cleanly, with nothing dropped. -/
theorem settled_reason_none {confirmedTransaction : ConfirmedTransaction} {target : ExecuteTarget}
    {call : Option FinalizerCall} {primary settled : List Operation × Option String}
    {caches₁ caches₂ : Caches} {cache : Cache}
    (planned : executeTarget confirmedTransaction = .ok target)
    (called : primaryCall env target.execution target.allowStateChange = .ok call)
    (primaryOk : primaryExecution env storage target.execution call ⟨cache, target.localCache⟩ =
      .ok primary caches₁)
    (settledOk : rejectedFee env storage confirmedTransaction.isRejectedExecute
      target.allowStateChange target.fee primary caches₁ = .ok settled caches₂)
    (none : settled.2 = none) :
    (∃ transaction, confirmedTransaction =
      .acceptedExecute transaction confirmedTransaction.finalize) ∧
    PrimaryRan env storage target cache settled.1 := by
  rcases rejectedFee_eq_ok settledOk with ⟨-, -, -, some⟩ | ⟨clean, rfl, -⟩
  · simp [none] at some
  have accepted : confirmedTransaction.isRejectedExecute = false := by
    simpa [none] using clean
  refine ⟨?_, call, called, ?_⟩
  · rcases executeTarget_eq_ok planned with ⟨execution, named, -⟩ | ⟨_, _, named, -⟩
    · exact ⟨_, named⟩
    · rw [named] at accepted
      cases accepted
  · rcases primaryExecution_eq_ok primaryOk with ⟨rfl, clean, -⟩ | ⟨finalizerCall, rfl, ran, -⟩ |
      ⟨_, _, _, -, -, -, -, reason⟩
    · exact clean
    · exact ⟨_, ran⟩
    · simp [none] at reason

/-- A reason after the dry-run fee leaves no primary operation. -/
theorem settled_of_reason {rejected allowStateChange : Bool} {fee : Option Fee}
    {execution : Execution} {call : Option FinalizerCall}
    {primary settled : List Operation × Option String} {caches caches₁ caches₂ : Caches}
    (primaryOk : primaryExecution env storage execution call caches = .ok primary caches₁)
    (settledOk : rejectedFee env storage rejected allowStateChange fee primary caches₁ =
      .ok settled caches₂)
    (reason : settled.2 ≠ none) : settled.1 = [] := by
  rcases rejectedFee_eq_ok settledOk with ⟨-, -, dropped, -⟩ | ⟨-, rfl, -⟩
  · exact dropped
  · rcases primaryExecution_eq_ok primaryOk with ⟨-, -, none, -⟩ | ⟨-, -, -, none⟩ |
      ⟨_, _, _, -, -, -, dropped, -⟩
    · exact absurd none reason
    · exact absurd none reason
    · exact dropped

/-! ### The shape -/

/-- **The operations of an execute transaction**: the expected list is the transaction's, the
operations are the primary execution's (only when there is no reason) followed by the last fee's
(only for a public fee), and only a clean accepted execution has no reason. -/
theorem finalizeExecute_shape {confirmedTransaction : ConfirmedTransaction} {cache final : Cache}
    {output : FinalizeOutput}
    (returned : finalizeExecute env storage confirmedTransaction cache = .ok output final) :
    ExecuteShape env storage confirmedTransaction cache output final := by
  obtain ⟨target, call, primary, settled, feeOperations, caches₁, caches₂, caches₃, planned, called,
    primaryOk, settledOk, feeOk, rfl, rfl⟩ := finalizeExecute_eq_ok.mp returned
  refine ⟨rfl, target, settled.1, feeOperations, caches₂, planned,
    ⟨call, primary, caches₁, called, primaryOk, settledOk⟩, rfl,
    settled_reason_none planned called primaryOk settledOk,
    settled_of_reason primaryOk settledOk, fun feeValue named isPublic => ?_, fun notPublic => ?_⟩
  · rcases finalFee_eq_ok feeOk with ⟨_, same, -, ran⟩ | ⟨notPublic, -⟩
    · obtain rfl := Option.some.inj (same.symm.trans named)
      exact ⟨caches₃, ran, rfl⟩
    · exact absurd isPublic (notPublic feeValue named)
  · rcases finalFee_eq_ok feeOk with ⟨feeValue, named, isPublic, -⟩ | ⟨-, none, rfl⟩
    · exact absurd isPublic (notPublic feeValue named)
    · exact ⟨none, rfl⟩

/-- An accepted execution whose last transition outputs no future and which pays no fee. -/
def plainExecution : ConfirmedTransaction :=
  .acceptedExecute (.execute ⟨[⟨4, "hello.aleo", "main", []⟩]⟩ none) []

/-- Collaborators whose finalizer returns nothing and changes nothing. -/
def idleEnv : Env :=
  ⟨[], fun _ _ => .ok [], fun _ _ => 0, fun _ _ cache _ => ⟨.ok [], cache, Cache.empty⟩⟩

theorem finalizeExecute_shape_plain :
    finalizeExecute idleEnv [] plainExecution Cache.empty = .ok ⟨[], [], none⟩ Cache.empty ∧
      ExecuteShape idleEnv [] plainExecution Cache.empty ⟨[], [], none⟩ Cache.empty :=
  ⟨rfl, finalizeExecute_shape rfl⟩

/-! ### An execution with a future -/

/-- `hello.aleo/main`, whose finalize awaits nothing. -/
def helloProgram : Program := ⟨"hello.aleo", [leafFunction "main" (by decide)], [], by decide⟩

/-- The future of `hello.aleo/main`, with no arguments. -/
def helloFuture : Future := ⟨"hello.aleo", "main", []⟩

/-- One transition, `id`, of `hello.aleo/main`, outputting its future. -/
def helloExecution (id : TransitionID) : Execution :=
  ⟨[⟨id, "hello.aleo", "main", [.future (some helloFuture)]⟩]⟩

/-- With `hello.aleo` deployed and `main` calling nothing, the primary execution of
`helloExecution id` is the call of `main` over the order `[id]`. -/
theorem primaryCall_hello (id : TransitionID) {allowStateChange : Bool}
    (deployed : getProgram env.programs "hello.aleo" = some helloProgram)
    (noCalls : env.callGraph helloProgram "main" = .ok []) :
    primaryCall env (helloExecution id) allowStateChange =
      .ok (some ⟨[id], helloProgram, "main", [], allowStateChange⟩) := by
  rw [@primaryCall_eq_some env (helloExecution id) allowStateChange _ helloFuture helloProgram rfl rfl
    deployed, buildAsyncOrder]
  have traceable : Traceable env.programs [id] helloProgram "main" ⟨0, "", []⟩ := by
    apply leafFunction_traceable <;> rfl
  have leaf : awaitOrder env.programs [id] helloProgram "main" ⟨0, "", []⟩ = [] := by
    rw [awaitOrder]; rfl
  have traced := traceExecution_eq_awaitOrder [id] helloProgram "main" ⟨0, "", []⟩ traceable [id]
  rw [leaf, List.append_nil] at traced
  simp only [helloFuture, helloExecution, noCalls, except_ok_bind, List.map_cons, List.map_nil,
    List.length_singleton, Nat.sub_self, List.getLast?_singleton, traced]
  rfl

end AleoFinalize
