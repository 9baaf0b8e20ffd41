import AleoFinalize.Proof.WebApi.Pages

/-!
**What `index_update_route` hands a polling client.**

The route counts the blocks above the client's `last_block` on the latest height it reads, caps the
count at 10, and then asks `get_recent_blocks_fast` for that many of the newest blocks.

* `chainDb_holds` — the reference database holds its chain;
* `take_reverse_blockCount` — the count's newest blocks are the blocks past a height;
* **`indexUpdateRoute_recent`** — when `later` blocks are committed between the two reads, the
  client gets the blocks above `max(last_block, latest - 10) + len(later)`, newest first. With no
  block committed in between and the client at most 10 blocks behind, these are exactly the
  blocks above `last_block`; every block committed in between pushes out the oldest of them;
* `indexUpdateRoute_recent_skips` — one block committed between the reads: the client that has
  block `0` of three gets blocks `3` and `2`, never block `1`.
-/

namespace AleoFinalize.Api

variable {helpers : ChainHelpers}

/-- The reference database holds its chain. -/
theorem chainDb_holds {chain : List Json} (nonempty : chain ≠ []) : (chainDb chain).Holds chain :=
  ⟨nonempty, rfl, fun _ _ => rfl⟩

/-- The newest blocks of `chain ++ later`, as many as there are above `lastBlock` in `chain` up to
10, are those past height `max (lastBlock + 1) (length - 10)` of `chain` and all of `later`. -/
theorem take_reverse_blockCount {chain later : List Json} {lastBlock : Int}
    (nonneg : 0 ≤ lastBlock) (behind : lastBlock < chain.length) :
    (chain ++ later).reverse.take
        (if (chain.length : Int) - 1 - lastBlock > 10 then 10
          else (chain.length : Int) - 1 - lastBlock).toNat =
      ((chain ++ later).drop
        (later.length + max (lastBlock.toNat + 1) (chain.length - 10))).reverse := by
  rw [List.take_reverse, List.length_append]
  congr 2
  split_ifs <;> omega

/-- **The recent blocks of an index update.** A client whose `last_block` is below the latest
height read gets, newest first, the blocks of the chain `get_recent_blocks_fast` sees that lie
above `max(last_block, latest - 10)` plus the number of blocks committed since the height was read:
the blocks above its `last_block` when it is at most 10 behind and no block came in between. -/
theorem indexUpdateRoute_recent {db heightDb recentDb : ChainDb} {chain later : List Json}
    {text : String} {lastBlock : Int} {summary : Json}
    (parsed : helpers.int text = some lastBlock) (nonneg : 0 ≤ lastBlock)
    (summarized : getSummary db = .ok summary)
    (counted : heightDb.Holds chain) (fetched : recentDb.Holds (chain ++ later))
    (behind : lastBlock < chain.length) :
    indexUpdateRoute db helpers heightDb recentDb (some text) =
      .ok (.json (.obj [("summary", summary), ("recent_blocks", .arr ((chain ++ later).drop
        (later.length + max (lastBlock.toNat + 1) (chain.length - 10))).reverse)])) := by
  have counting : ¬ ((chain.length : Int) - 1 - lastBlock < 0) := by omega
  simp only [indexUpdateRoute, parsed, summarized, counted.latestHeight, bind, Except.bind, pure,
    Except.pure]
  rw [if_neg (by omega), if_neg counting, fetched.recentBlocks _ (by split_ifs <;> omega),
    take_reverse_blockCount nonneg behind]

/-- **A block committed between the two reads pushes a block out of the feed**: the client that has
block `0` of three polls while block `3` is committed between the reads, and gets blocks `3` and
`2`, never block `1`. -/
theorem indexUpdateRoute_recent_skips :
    ∃ summary,
      (digitHelpers.int "0" = some 0 ∧ getSummary (chainDb threeBlocks) = .ok summary) ∧
      indexUpdateRoute (chainDb threeBlocks) digitHelpers (chainDb threeBlocks)
          (chainDb (threeBlocks ++ [.int 3])) (some "0") =
        .ok (.json (.obj [("summary", summary), ("recent_blocks", .arr [.int 3, .int 2])])) := by
  obtain ⟨summary, summarized⟩ : ∃ summary, getSummary (chainDb threeBlocks) = .ok summary :=
    ⟨_, rfl⟩
  refine ⟨summary, ⟨rfl, summarized⟩, ?_⟩
  rw [@indexUpdateRoute_recent digitHelpers (chainDb threeBlocks) (chainDb threeBlocks)
    (chainDb (threeBlocks ++ [.int 3])) threeBlocks [.int 3] "0" 0 summary rfl (by decide)
    summarized (chainDb_holds nofun) (chainDb_holds nofun) (by decide)]
  rfl

end AleoFinalize.Api
