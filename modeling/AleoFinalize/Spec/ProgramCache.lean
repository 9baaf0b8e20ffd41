import AleoFinalize.Api.MappingRoutes

/-!
**What the program cache of the mapping routes is for.**

The cache saves a database read and a `Program.load` per request; it is meant to change no
answer. The plain path serves each request with no cache at all (`uncachedRun`).

* `Coherent db cache` — every cached program is the database's copy;
* `KeepsPrograms db next` — the database moves on without replacing or dropping a program, as a
  ledger does: a deployed program stays deployed as it is;
* `KeptPrograms db events` — every move of the database along a run does so.
-/

namespace AleoFinalize.Api

/-- Every cached program is the one the database holds under that id. -/
def Coherent (db : MappingDb) (cache : ProgramCache) : Prop :=
  ∀ programId program, cache programId = some program → db.getProgram programId = some program

/-- `next` still holds every program `db` holds. -/
def KeepsPrograms (db next : MappingDb) : Prop :=
  ∀ programId program, db.getProgram programId = some program →
    next.getProgram programId = some program

/-- Every move of the database along the run keeps every program. -/
def KeptPrograms : MappingDb → List Event → Prop
  | _, [] => True
  | db, .request _ :: events => KeptPrograms db events
  | db, .advance next :: events => KeepsPrograms db next ∧ KeptPrograms next events

/-- The plain path: each request of the run served with an empty cache, on the database as it is
at that point of the run. -/
def uncachedRun (parsers : Parsers) : MappingDb → List Event → List (Except Fault Response)
  | _, [] => []
  | db, .request request :: events =>
    outcome (serve db parsers request ProgramCache.empty) :: uncachedRun parsers db events
  | _, .advance db :: events => uncachedRun parsers db events

end AleoFinalize.Api
