import AleoFinalize.Interpreter.Schedule
import AleoFinalize.Proof.Execute.Observed

/-!
**`get_mapping_value` can put back a mapping older than storage.**

* `World.run_block` — alone, the block coroutine is `finalize_block`: a run of `block` events
  finalizes the transactions one by one, as the loop of `finalize_block` does;
* `World.step_install` — line 308 stores what the reader read whatever the cache holds by then: the
  membership check of line 307 is not made again after the read;
* `getMappingValue_stale_install` — the schedule check, read, finalize one transaction, install:
  the block loads and commits the payer's balance while the reader is suspended, and the reader
  then replaces it with the empty mapping it read before the commit.
-/

namespace AleoFinalize

section Run

variable {finalizeDeploy finalizeExecute : TransactionFinalizer}
  {mappingCacheRead : List DbWrite → Field → MappingCacheDict}

/-- **Alone, the block coroutine is `finalize_block`**: when the loop returns, as many `block`
events finalize every transaction, leaving the store and the reasons the loop leaves. -/
theorem World.run_block (world : World) {rejectReasons : List (Option String)} {store : Store}
    (finalized : finalizeTransactions finalizeDeploy finalizeExecute world.block world.rejectReasons
      world.store = .ok rejectReasons store) :
    world.run finalizeDeploy finalizeExecute mappingCacheRead
        (List.replicate world.block.length .block) =
      some { world with store, block := [], rejectReasons } := by
  obtain ⟨store₀, block, reasons, readers⟩ := world
  induction block generalizing store₀ reasons with
  | nil =>
    cases finalized
    rfl
  | cons transaction transactions ih =>
    simp only [finalizeTransactions, estate_bind_apply] at finalized
    split at finalized
    · rename_i reason next stepped
      simp only [List.length_cons, List.replicate_succ, World.run, World.step, stepped,
        Option.some_bind]
      exact ih next (reasons ++ [reason]) finalized
    · cases finalized

/-- **Line 308 does not check again**: an install stores the contents read, whatever the cache
holds for the mapping by then. -/
theorem World.step_install {world next : World} {reader : Nat}
    (stepped : world.step finalizeDeploy finalizeExecute mappingCacheRead (.install reader) =
      some next) :
    ∃ mappingId contents, world.readers[reader]? = some (mappingId, .resumed contents) ∧
      next.store.cache mappingId = some contents := by
  simp only [World.step] at stepped
  split at stepped
  · rename_i mappingId contents found
    cases stepped
    exact ⟨mappingId, contents, found, by simp⟩
  · cases stepped

end Run

/-! ### The schedule -/

/-- `mapping_cache_read` on a storage log: the entries its update and remove writes leave in the
mapping. -/
def storedMapping (writes : List DbWrite) (mappingId : Field) : MappingCacheDict :=
  writes.foldl (fun entries write => match write with
    | .updateMappingKeyValue _ _ written keyId _ key value _ _ =>
      if written = mappingId then Function.update entries keyId (some ⟨key, .plaintext value⟩)
      else entries
    | .removeMappingKeyValue _ _ written keyId _ _ _ =>
      if written = mappingId then Function.update entries keyId none else entries
    | .initializeMapping .. => entries) fun _ => none

/-- A block run with one accepted deployment of `hello.aleo` paid by `publicFee`, whose fee charges
the payer's balance in mapping `0`, and one reader of mapping `0`, before its check. -/
def staleWorld : World :=
  ⟨⟨Cache.empty, []⟩, [.acceptedDeploy (.deploy ⟨helloProgram⟩ publicFee) [.updateKeyValue 0 0 0]],
    [], [(0, .check)]⟩

/-- **A stale install**: the reader finds mapping `0` missing and reads it from empty storage; the
block then finalizes its deployment, whose fee caches and commits the payer's balance `-fee`; the
reader resumes and replaces the cached mapping, balance included, with the empty one it read, while
storage holds the balance. -/
theorem getMappingValue_stale_install :
    ∃ suspended installed,
      staleWorld.run (finalizeDeploy ledgerEnv) (finalizeExecute ledgerEnv) storedMapping
        [.check 0, .query 0, .block] = some suspended ∧
      suspended.step (finalizeDeploy ledgerEnv) (finalizeExecute ledgerEnv) storedMapping
        (.install 0) = some installed ∧
      balanceOf suspended.store.cache = some "-fee" ∧
      balanceOf installed.store.cache = none ∧
      balanceOf (fun mappingId => some (storedMapping installed.store.writes mappingId)) =
        some "-fee" :=
  ⟨_, _, rfl, rfl, rfl, rfl, rfl⟩

end AleoFinalize
