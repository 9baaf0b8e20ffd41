import AleoFinalize.Interpreter.Block
import AleoFinalize.Proof.Execute.Shape

/-!
**An accepted execution's execute error becomes a reason.**

Lines 191-199 of `finalize_execute` catch every `ExecuteError` of the primary execution, whatever
the transaction's kind: an accepted execution whose replay faults is given the reason of line 198
with its operations dropped, exactly as a rejected one is.

* `finalizeExecute_faulty` — the replay of an accepted execution whose finalizer raises returns,
  with that reason and no operation;
* `finalizeBlock_acceptedExecuteReason` — a block of that one execution, whose finalize wrote
  nothing, passes the checks of lines 240-267 and returns normally, with the reason recorded for an
  accepted transaction.
-/

namespace AleoFinalize

/-- The `ExecuteError` a diverging replay raises, blaming transition `7`. -/
def assertFailure : ExecuteError := ⟨"assert failed", some 7, "assert.eq r0 r1"⟩

/-- Collaborators whose finalizer raises `assertFailure` on every call. -/
def faultyEnv : Env :=
  ⟨[helloProgram], fun _ _ => .ok [], fun _ _ => 0,
    fun _ _ cache _ => ⟨.error (.executeError assertFailure), cache, Cache.empty⟩⟩

/-- A block with one accepted execution of `hello.aleo/main`, with no fee, whose finalize wrote
nothing. -/
def faultyBlock : Block := ⟨[.acceptedExecute (.execute (helloExecution 7) none) []]⟩

/-- The replay of the faulty execution returns, with the execute-error reason and no operation. -/
theorem finalizeExecute_faulty :
    finalizeExecute faultyEnv [] (.acceptedExecute (.execute (helloExecution 7) none) []) Cache.empty =
      .ok ⟨[], [], some (executeErrorReason assertFailure 0)⟩ Cache.empty :=
  finalizeExecute_eq_ok.mpr ⟨_, _, _, _, [], _, _, _, rfl, primaryCall_hello 7 rfl rfl, rfl, rfl,
    rfl, rfl, rfl⟩

theorem finalizeBlock_acceptedExecuteReason :
    ∃ final, finalizeBlock (finalizeDeploy faultyEnv) (finalizeExecute faultyEnv) faultyBlock
      ⟨Cache.empty, []⟩ = .ok [some (executeErrorReason assertFailure 0)] final :=
  ⟨_, by simp only [finalizeBlock, faultyBlock, finalizeTransactions, finalizeTransaction, onCache,
    dispatchFinalizer, finalizeExecute_faulty, estate_bind_apply]; rfl⟩

end AleoFinalize
