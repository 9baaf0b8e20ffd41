import AleoFinalize.Interpreter.Block

/-!
**`get_mapping_value` interleaved with `finalize_block`** (lines 226-271 and 304-308).

Both coroutines run on one event loop and act on the process-wide cache and on storage (`Store`);
each runs atomically between two awaits. A run is a list of events, one step of one coroutine
each:

* `block` — the block run finalizes its next transaction (the body of the loop of
  `finalize_block`, `finalizeTransaction`); a fault ends the run;
* `check i` — reader `i` tests `mapping_id not in global_mapping_cache` (line 307) and, when the
  mapping is missing, suspends in `mapping_cache_read`;
* `query i` — the storage read of reader `i` runs, on storage as it is at that moment;
* `install i` — reader `i` resumes and stores what it read: `global_mapping_cache[mapping_id] = ...`
  (line 308).

What `get_mapping_value` does after line 308 reads the cache but never writes it, and is left out.
-/

namespace AleoFinalize

/-- Where a `get_mapping_value` call stands: before its membership check, suspended in the read of
a missing mapping, back from it with the contents read, or past line 308. -/
inductive ReaderPc where
  | check
  | reading
  | resumed (contents : MappingCacheDict)
  | done

/-- The shared state, the transactions the block run has still to finalize and the reasons it
gave so far, and each reader's mapping id and position. -/
structure World where
  store : Store
  block : List ConfirmedTransaction
  rejectReasons : List (Option String)
  readers : List (Field × ReaderPc)

/-- One step of one coroutine. -/
inductive Event where
  | block
  | check (reader : Nat)
  | query (reader : Nat)
  | install (reader : Nat)
  deriving DecidableEq, Repr

section Step

variable (finalizeDeploy finalizeExecute : TransactionFinalizer)
  (mappingCacheRead : List DbWrite → Field → MappingCacheDict)

/-- One event on the world, or `none` when the coroutine it names is not at that point. The reader
reads storage through `mapping_cache_read`, which lives outside this excerpt. -/
def World.step (world : World) : Event → Option World
  | .block => match world.block with
    | [] => none
    | transaction :: transactions =>
      match finalizeTransaction finalizeDeploy finalizeExecute transaction world.store with
      | .ok reason store => some { world with
          store, block := transactions, rejectReasons := world.rejectReasons ++ [reason] }
      | .error _ store => some { world with store, block := [] }
  | .check reader => match world.readers[reader]? with
    | some (mappingId, .check) => some { world with
        readers := world.readers.set reader (mappingId,
          if (world.store.cache mappingId).isSome then .done else .reading) }
    | _ => none
  | .query reader => match world.readers[reader]? with
    | some (mappingId, .reading) => some { world with
        readers := world.readers.set reader
          (mappingId, .resumed (mappingCacheRead world.store.writes mappingId)) }
    | _ => none
  | .install reader => match world.readers[reader]? with
    | some (mappingId, .resumed contents) => some { world with
        store := { world.store with
          cache := Function.update world.store.cache mappingId (some contents) }
        readers := world.readers.set reader (mappingId, .done) }
    | _ => none

/-- A run: the events in order, each on the world the one before left. -/
def World.run : World → List Event → Option World
  | world, [] => some world
  | world, event :: events =>
    (world.step finalizeDeploy finalizeExecute mappingCacheRead event).bind fun next =>
      next.run events

end Step

end AleoFinalize
