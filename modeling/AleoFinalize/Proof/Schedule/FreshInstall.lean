import AleoFinalize.Spec.Schedule
import AleoFinalize.Proof.Schedule.StaleInstall

/-!
**`get_mapping_value` installs current contents on a quiet schedule.**

The other side of the stale install: an install is stale only when a block step falls between the
reader's storage read and its install.

* `World.step_fresh` — **one step**: a reader step, or a block step while no reader is back from
  its read, keeps every waiting reader's contents equal to what storage holds;
* `World.run_fresh` — the whole run of a quiet schedule;
* `World.run_install_current` — on a quiet schedule from a world with no reader waiting, line 308
  installs exactly what storage holds for the mapping at that moment.
-/

namespace AleoFinalize

section Steps

variable {finalizeDeploy finalizeExecute : TransactionFinalizer}
  {mappingCacheRead : List DbWrite → Field → MappingCacheDict}

theorem World.not_mem_of_quiet {world : World} (quiet : world.quiet = true) (mappingId : Field)
    (contents : MappingCacheDict) : (mappingId, ReaderPc.resumed contents) ∉ world.readers := by
  intro member
  simpa [ReaderPc.isResumed] using List.all_eq_true.mp quiet _ member

/-- A block step moves no reader. -/
theorem World.step_block_readers {world next : World}
    (stepped : world.step finalizeDeploy finalizeExecute mappingCacheRead .block = some next) :
    next.readers = world.readers := by
  simp only [World.step] at stepped
  split at stepped
  · cases stepped
  · split at stepped <;> cases stepped <;> rfl

/-- A reader that is not back from its read stays fresh whatever storage holds. -/
theorem World.fresh_set {world : World} (fresh : world.Fresh mappingCacheRead) {reader : Nat}
    {entry : Field × ReaderPc} (notResumed : entry.2.isResumed = false) :
    { world with readers := world.readers.set reader entry }.Fresh mappingCacheRead := by
  intro mappingId contents member
  rcases List.mem_or_eq_of_mem_set member with old | rfl
  · exact fresh _ _ old
  · cases notResumed

/-- **One step keeps the waiting readers fresh**, unless it is a block step taken while a reader
is back from its read. -/
theorem World.step_fresh {world next : World} {event : Event}
    (fresh : world.Fresh mappingCacheRead) (quiet : event = .block → world.quiet = true)
    (stepped : world.step finalizeDeploy finalizeExecute mappingCacheRead event = some next) :
    next.Fresh mappingCacheRead := by
  cases event with
  | block =>
    intro mappingId contents member
    rw [World.step_block_readers stepped] at member
    exact (World.not_mem_of_quiet (quiet rfl) _ _ member).elim
  | check reader =>
    simp only [World.step] at stepped
    split at stepped
    · cases stepped
      exact World.fresh_set fresh (by split <;> rfl)
    · cases stepped
  | query reader =>
    simp only [World.step] at stepped
    split at stepped
    · cases stepped
      intro mappingId contents member
      rcases List.mem_or_eq_of_mem_set member with old | read
      · exact fresh _ _ old
      · cases read
        rfl
    · cases stepped
  | install reader =>
    simp only [World.step] at stepped
    split at stepped
    · cases stepped
      exact World.fresh_set fresh rfl
    · cases stepped

/-- **A quiet schedule keeps the waiting readers fresh** along the whole run. -/
theorem World.run_fresh {world final : World} {events : List Event}
    (fresh : world.Fresh mappingCacheRead)
    (quiet : world.quietRun finalizeDeploy finalizeExecute mappingCacheRead events = true)
    (ran : world.run finalizeDeploy finalizeExecute mappingCacheRead events = some final) :
    final.Fresh mappingCacheRead := by
  induction events generalizing world with
  | nil =>
    cases ran
    exact fresh
  | cons event events ih =>
    obtain ⟨next, stepped, rest⟩ := Option.bind_eq_some.mp ran
    simp only [World.quietRun, stepped, Bool.and_eq_true, Bool.or_eq_true, bne_iff_ne, ne_eq]
      at quiet
    have blockQuiet : event = .block → world.quiet = true := fun block =>
      quiet.1.resolve_left (not_not.mpr block)
    exact ih (World.step_fresh fresh blockQuiet stepped) quiet.2 rest

/-- An install issues no storage write. -/
theorem World.step_install_writes {world next : World} {reader : Nat}
    (stepped : world.step finalizeDeploy finalizeExecute mappingCacheRead (.install reader) =
      some next) :
    next.store.writes = world.store.writes := by
  simp only [World.step] at stepped
  split at stepped
  · cases stepped
    rfl
  · cases stepped

end Steps

/-- **Line 308 installs current contents on a quiet schedule**: from a world with no reader back
from its read, after a schedule whose block steps all come while no reader is, an install puts in
the cache exactly what storage then holds for the reader's mapping. -/
theorem World.run_install_current {finalizeDeploy finalizeExecute : TransactionFinalizer}
    {mappingCacheRead : List DbWrite → Field → MappingCacheDict} {world final next : World}
    {events : List Event} {reader : Nat} (start : world.quiet = true)
    (quiet : world.quietRun finalizeDeploy finalizeExecute mappingCacheRead events = true)
    (ran : world.run finalizeDeploy finalizeExecute mappingCacheRead events = some final)
    (installed : final.step finalizeDeploy finalizeExecute mappingCacheRead (.install reader) =
      some next) :
    ∃ mappingId contents, final.readers[reader]? = some (mappingId, .resumed contents) ∧
      next.store.cache mappingId = some (mappingCacheRead next.store.writes mappingId) := by
  have fresh : world.Fresh mappingCacheRead := fun mappingId contents member =>
    (World.not_mem_of_quiet start mappingId contents member).elim
  obtain ⟨mappingId, contents, waiting, cached⟩ := World.step_install installed
  have current := World.run_fresh fresh quiet ran mappingId contents (List.getElem?_mem waiting)
  refine ⟨mappingId, contents, waiting, ?_⟩
  rw [cached, World.step_install_writes installed, current]

/-- The reader of `staleWorld` checks, the block runs and commits the payer's balance, and the reader
then reads and installs: line 308 installs the mapping with the committed balance. -/
theorem World.run_install_current_staleWorld :
    ∃ final next, staleWorld.quiet = true ∧
      staleWorld.quietRun (finalizeDeploy ledgerEnv) (finalizeExecute ledgerEnv) storedMapping
        [.check 0, .block, .query 0] = true ∧
      staleWorld.run (finalizeDeploy ledgerEnv) (finalizeExecute ledgerEnv) storedMapping
        [.check 0, .block, .query 0] = some final ∧
      final.step (finalizeDeploy ledgerEnv) (finalizeExecute ledgerEnv) storedMapping (.install 0) =
        some next ∧
      ∃ mappingId contents, final.readers[0]? = some (mappingId, .resumed contents) ∧
        next.store.cache mappingId = some (storedMapping next.store.writes mappingId) :=
  ⟨_, _, rfl, rfl, rfl, rfl, @World.run_install_current (finalizeDeploy ledgerEnv)
    (finalizeExecute ledgerEnv) storedMapping staleWorld _ _ [.check 0, .block, .query 0] 0 rfl rfl rfl rfl⟩

end AleoFinalize
