import AleoFinalize.Spec.ProgramCache

/-!
**The program cache changes no answer.**

* `readThrough_coherent` — on a coherent cache the read-through block returns the database's copy
  (hit or miss alike) and leaves the cache coherent;
* `withProgram_uncached` — so the opening block of every mapping route, and with it the route,
  answers as it would with no cache;
* `serve_uncached` — one request of any of the four routes: the same answer as with an empty
  cache, and a coherent cache after it, whether it answers or raises;
* **`serveRun_uncached`** — a whole run: from a coherent cache, along any interleaving of requests
  and moves of the database that keep every program, every request gets the answer of the plain
  path.
-/

namespace AleoFinalize.Api

variable {db : MappingDb} {parsers : Parsers}

/-! ### Coherence -/

theorem coherent_empty (db : MappingDb) : Coherent db ProgramCache.empty :=
  fun _ _ cached => nomatch cached

/-- Caching what the database holds keeps the cache coherent. -/
theorem Coherent.update {cache : ProgramCache} {programId : String} {program : Program}
    (coherent : Coherent db cache) (stored : db.getProgram programId = some program) :
    Coherent db (Function.update cache programId (some program)) := by
  intro id cached found
  by_cases same : id = programId
  · subst same
    rw [Function.update_same] at found
    exact found ▸ stored
  · rw [Function.update_noteq same] at found
    exact coherent id cached found

/-- A cache coherent with a database stays coherent when the database keeps its programs. -/
theorem Coherent.advance {next : MappingDb} {cache : ProgramCache} (coherent : Coherent db cache)
    (keeps : KeepsPrograms db next) : Coherent next cache :=
  fun programId program cached => keeps programId program (coherent programId program cached)

/-! ### The read-through block -/

/-- **Hit or miss, the block returns the database's program**, and the cache stays coherent. -/
theorem readThrough_coherent {cache : ProgramCache} (programId : String)
    (coherent : Coherent db cache) :
    ∃ after, readThrough db.getProgram programId cache = .ok (db.getProgram programId) after ∧
      Coherent db after := by
  cases cached : cache programId with
  | some program =>
    exact ⟨cache, by simp only [readThrough, cached, coherent _ _ cached], coherent⟩
  | none =>
    cases stored : db.getProgram programId with
    | none => exact ⟨cache, by simp only [readThrough, cached, stored], coherent⟩
    | some program =>
      exact ⟨_, by simp only [readThrough, cached, stored], coherent.update stored⟩

/-- The opening block and the rest of a route, on a cache the block has left coherent. -/
theorem withProgram_coherent {cache : ProgramCache} (programId : String)
    (rest : Program → Except Fault Response) (coherent : Coherent db cache) :
    outcome (withProgram db programId rest cache) = (match db.getProgram programId with
      | none => .ok (.error "Program not found" 404)
      | some program => rest program) ∧
      Coherent db (finalState (withProgram db programId rest cache)) := by
  obtain ⟨after, read, kept⟩ := readThrough_coherent programId coherent
  simp only [withProgram, estate_bind_apply, read]
  cases db.getProgram programId with
  | none => exact ⟨rfl, kept⟩
  | some program =>
    dsimp only
    cases rest program <;> exact ⟨rfl, kept⟩

/-- **A route opened by the read-through block answers as with no cache.** -/
theorem withProgram_uncached {cache : ProgramCache} (programId : String)
    (rest : Program → Except Fault Response) (coherent : Coherent db cache) :
    outcome (withProgram db programId rest cache) =
      outcome (withProgram db programId rest ProgramCache.empty) := by
  rw [(withProgram_coherent programId rest coherent).1,
    (withProgram_coherent programId rest (coherent_empty db)).1]

/-! ### One request, and a run -/

/-- What a route that may answer before its opening block does to a coherent cache. -/
theorem gated_uncached {cache : ProgramCache} (gate : Prop) [Decidable gate] (early : Response)
    (programId : String) (rest : Program → Except Fault Response) (coherent : Coherent db cache) :
    let route := if gate then pure early else withProgram db programId rest
    outcome (route cache) = outcome (route ProgramCache.empty) ∧
      Coherent db (finalState (route cache)) := by
  by_cases answered : gate
  · simp only [answered, if_true]
    exact ⟨rfl, coherent⟩
  · simp only [answered, if_false]
    exact ⟨withProgram_uncached programId rest coherent,
      (withProgram_coherent programId rest coherent).2⟩

/-- **One request: the answer of the plain path, and a coherent cache after it.** -/
theorem serve_uncached (parsers : Parsers) {cache : ProgramCache} (request : Request)
    (coherent : Coherent db cache) :
    outcome (serve db parsers request cache) =
        outcome (serve db parsers request ProgramCache.empty) ∧
      Coherent db (finalState (serve db parsers request cache)) := by
  cases request with
  | mapping version programId mapping key height time =>
    exact gated_uncached _ _ programId _ coherent
  | mappingList programId | mappingValueList _ programId _ _ _ =>
    exact ⟨withProgram_uncached programId _ coherent,
      (withProgram_coherent programId _ coherent).2⟩
  | mappingKeyCount version programId mapping =>
    exact gated_uncached _ _ programId _ coherent

/-- **The program cache changes no answer.** From a cache coherent with the database, along every
run whose database moves keep every program, each request gets the answer it would get with no
cache. -/
theorem serveRun_uncached (events : List Event) :
    ∀ (db : MappingDb) (cache : ProgramCache), Coherent db cache → KeptPrograms db events →
      serveRun parsers db cache events = uncachedRun parsers db events := by
  induction events with
  | nil => intro _ _ _ _; rfl
  | cons event events ih =>
    intro db cache coherent kept
    cases event with
    | request request =>
      have served := serve_uncached parsers request coherent
      simp only [serveRun, uncachedRun, served.1, ih db _ served.2 kept]
    | advance next =>
      exact ih next cache (coherent.advance kept.1) kept.2

/-- A token program with one mapping keyed by addresses. -/
def tokenProgram : Program := ⟨[("balances", .literal "address")], [], []⟩

/-- A database as it is before `token.aleo` is deployed, or after (`deployed`). -/
def tokenDb (deployed : Bool) : MappingDb where
  getProgram id := if deployed && id = "token.aleo" then some tokenProgram else none
  getMappingValue _ _ _ := some "5u64"
  getMappingValueAtHeight _ _ _ _ := none
  getLatestHeight := some 7
  getLatestBlockTimestamp := some 1700000000
  parseHistoryParams _ _ := .ok (7, 1700000000)
  getMappingCache _ _ := []
  getMappingKeyValue _ _ _ _ := ([], .null)
  getMappingKeyCount _ _ := 1

/-- Parsers that accept every text as it is. -/
def plainParsers : Parsers := ⟨fun _ text => some text, fun text _ _ => .ok text, fun _ _ _ => 0,
  fun _ => none⟩

/-- A request for `token.aleo` before its deployment (a miss that caches nothing), the deployment,
then two requests (a miss that caches the program, and a hit). -/
def tokenRun : List Event :=
  [.request (.mappingList "token.aleo"), .advance (tokenDb true),
    .request (.mapping 3 "token.aleo" "balances" "aleo1" none none),
    .request (.mappingKeyCount 2 "token.aleo" "balances")]

theorem serveRun_uncached_tokenRun :
    (Coherent (tokenDb false) ProgramCache.empty ∧ KeptPrograms (tokenDb false) tokenRun) ∧
      serveRun plainParsers (tokenDb false) ProgramCache.empty tokenRun =
        uncachedRun plainParsers (tokenDb false) tokenRun :=
  have kept : KeptPrograms (tokenDb false) tokenRun :=
    ⟨fun _ _ stored => (nomatch stored), trivial⟩
  ⟨⟨coherent_empty _, kept⟩,
    serveRun_uncached tokenRun (tokenDb false) ProgramCache.empty (coherent_empty _) kept⟩

end AleoFinalize.Api
