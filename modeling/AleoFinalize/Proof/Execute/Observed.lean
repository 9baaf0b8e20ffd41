import AleoFinalize.Proof.Execute.Shape

/-!
**A rejected execution is observed by the fee that follows it.**

`finalize_execute` creates one `local_mapping_cache = {}` for a rejected execution (line 162) and
hands that same dictionary to the primary execution, to the dry-run fee (line 206) and to the last
fee (line 223), where `finalize_deploy` hands its fee a fresh `{}` (line 47).

* `ledgerFinalizer` — a finalizer that keeps a payer's balance in mapping `0`: every run reads the
  balance from the local dictionary it is handed, else from the process-wide one; with state
  changes allowed it writes the process-wide dictionary and returns the update, without it writes
  only the local one;
* `finalizeExecute_rejected_observed` — two rejected executions with the same fee, from the same
  cache, return different fee operations and leave different caches.
-/

namespace AleoFinalize

/-- The payer's balance in mapping `0`, key `0`. -/
def balanceOf (cache : Cache) : Option String :=
  match cache 0 with
  | some entries => match entries 0 with
    | some ⟨_, .plaintext balance⟩ => some balance
    | _ => none
  | none => none

/-- `cache` with the payer's balance set. -/
def withBalance (cache : Cache) (balance : String) : Cache := fun mappingId =>
  if mappingId = 0 then some fun keyId => if keyId = 0 then some ⟨"payer", .plaintext balance⟩ else none
  else cache mappingId

/-- A finalizer over the payer's balance: a fee charges it (written as the suffix `-fee`), any
other function sets it to the order it was given. It is deterministic and leaves the process-wide
dictionary alone when state changes are not allowed. -/
def ledgerFinalizer : ExecuteFinalizer := fun call _ cache localCache =>
  let own := match localCache with
    | .own entries => entries
    | .processWide => Cache.empty
  let seen := ((match localCache with
    | .own entries => balanceOf entries
    | .processWide => none).orElse fun _ => balanceOf cache).getD ""
  let balance := if call.functionName = "fee_public" then seen ++ "-fee" else toString call.order
  if call.allowStateChange then
    ⟨.ok [.updateKeyValue 0 0 0 "payer" balance "credits.aleo" "account" 0 true],
      withBalance cache balance, own⟩
  else ⟨.ok [], cache, withBalance own balance⟩

theorem ledgerFinalizer_dryRun (call : FinalizerCall) (storage : List DbWrite) (cache : Cache)
    (localCache : LocalCache) (dryRun : call.allowStateChange = false) :
    (ledgerFinalizer call storage cache localCache).cache = cache := by
  simp [ledgerFinalizer, dryRun]

/-- `credits.aleo/fee_public`, with an empty finalize. -/
def creditsProgram : Program := ⟨"credits.aleo", [leafFunction "fee_public" (by decide)], [], by decide⟩

/-- Collaborators with `hello.aleo` and `credits.aleo` deployed and `ledgerFinalizer`. -/
def ledgerEnv : Env :=
  ⟨[helloProgram, creditsProgram], fun _ _ => .ok [], fun _ _ => 0, ledgerFinalizer⟩

/-- A public fee, transition `9`. -/
def publicFee : Fee :=
  ⟨⟨9, "credits.aleo", "fee_public", [.future (some ⟨"credits.aleo", "fee_public", []⟩)]⟩⟩

/-- The rejected execution of transition `id`, paid by `publicFee`. -/
def rejectedHello (id : TransitionID) : ConfirmedTransaction :=
  .rejectedExecute (.fee publicFee) (.execution (helloExecution id)) []

/-- The run of `finalize_execute` on `rejectedHello id` from an empty cache: the primary execution
sets the balance to `[id]` in the shared local dictionary, the dry-run fee charges it there, and the
last fee charges it again and commits `[id]-fee-fee`. -/
theorem finalizeExecute_rejectedHello (id : TransitionID) :
    finalizeExecute ledgerEnv [] (rejectedHello id) Cache.empty =
      .ok ⟨[], [.updateKeyValue 0 0 0 "payer" (toString [id] ++ "-fee" ++ "-fee") "credits.aleo"
        "account" 0 true], some "unknown reason"⟩
        (withBalance Cache.empty (toString [id] ++ "-fee" ++ "-fee")) :=
  finalizeExecute_eq_ok.mpr ⟨_, _, _, _, _, _, _, _, rfl, primaryCall_hello id rfl rfl, rfl, rfl, rfl,
    rfl, rfl⟩

/-- **The last fee observes the rejected execution**: with a finalizer that never changes the
process-wide dictionary on a dry run, the rejected executions of transitions `7` and `8`, paid by
the same fee from the same cache, return different fee operations and leave different caches. -/
theorem finalizeExecute_rejected_observed :
    (∀ call storage cache localCache, call.allowStateChange = false →
      (ledgerEnv.executeFinalizer call storage cache localCache).cache = cache) ∧
    ∃ output₇ final₇ output₈ final₈,
      finalizeExecute ledgerEnv [] (rejectedHello 7) Cache.empty = .ok output₇ final₇ ∧
      finalizeExecute ledgerEnv [] (rejectedHello 8) Cache.empty = .ok output₈ final₈ ∧
      output₇.operations ≠ output₈.operations ∧ balanceOf final₇ ≠ balanceOf final₈ :=
  ⟨ledgerFinalizer_dryRun, _, _, _, _, finalizeExecute_rejectedHello 7,
    finalizeExecute_rejectedHello 8, by decide, by decide⟩

end AleoFinalize
