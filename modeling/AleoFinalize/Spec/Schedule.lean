import AleoFinalize.Interpreter.Schedule

/-!
**When a reader's install is current.**

* `ReaderPc.isResumed`, `World.quiet` — a reader between its storage read and its install, and a
  world with none;
* `World.Fresh` — every reader between its read and its install holds what storage holds now for
  its mapping;
* `World.quietRun` — a schedule whose block steps all come while no reader is between its read and
  its install.
-/

namespace AleoFinalize

/-- Whether a reader is back from its storage read, before its install. -/
def ReaderPc.isResumed : ReaderPc → Bool
  | .resumed _ => true
  | _ => false

/-- No reader is between its storage read and its install. -/
def World.quiet (world : World) : Bool :=
  world.readers.all fun reader => !reader.2.isResumed

section Fresh

variable (finalizeDeploy finalizeExecute : TransactionFinalizer)
  (mappingCacheRead : List DbWrite → Field → MappingCacheDict)

/-- Every reader back from its read holds what storage holds now for its mapping. -/
def World.Fresh (world : World) : Prop :=
  ∀ mappingId contents, (mappingId, ReaderPc.resumed contents) ∈ world.readers →
    contents = mappingCacheRead world.store.writes mappingId

/-- The block steps of the schedule all come while no reader is between its read and its install.
A schedule is checked only as far as it runs. -/
def World.quietRun (world : World) : List Event → Bool
  | [] => true
  | event :: events => (event != .block || world.quiet) &&
    match world.step finalizeDeploy finalizeExecute mappingCacheRead event with
    | some next => next.quietRun events
    | none => true

end Fresh

end AleoFinalize
