import AleoFinalize.WebApi.ChainRoutes

/-!
**The database as the chain routes count on it.**

`get_latest_height`, `get_recent_blocks_fast`, `get_blocks_range_fast` and the validator queries
are queries of the database, outside this excerpt; the chain routes count on them meaning the
latest block's height, the newest blocks, the blocks between two heights and the validators
between two ranks.

* `ChainDb.Holds` — a database holding a chain, the genesis block first, as
  `get_recent_blocks_fast` reads it;
* `ChainDb.HoldsBlocks` — the same, as `get_blocks_range_fast` reads it;
* `chainPage` — page `p` of a chain shown 20 blocks a page, newest first;
* `ChainDb.HoldsValidators` — a database holding the validators at its latest height, in rank
  order, as `get_validators_range_at_height` reads them;
* `validatorPage` — page `p` of the validators shown 50 a page;
* `chainDb` — the database that holds exactly a given chain, as a reference.
-/

namespace AleoFinalize.Api

/-- The database holds `chain`, the genesis block first: its latest height is the last block's,
and `get_recent_blocks_fast(count)` returns the `count` newest blocks, newest first. -/
structure ChainDb.Holds (db : ChainDb) (chain : List Json) : Prop where
  nonempty : chain ≠ []
  latestHeight : db.getLatestHeight = some ((chain.length : Int) - 1)
  recentBlocks : ∀ count : Int, 0 ≤ count →
    db.getRecentBlocksFast count = .arr (chain.reverse.take count.toNat)

/-- The database holds `chain` as `blocks_route` reads it: its latest height is the last block's,
and `get_blocks_range_fast(start, end)` returns the blocks with heights above `end` up to `start`,
newest first. -/
structure ChainDb.HoldsBlocks (db : ChainDb) (chain : List Json) : Prop where
  latestHeight : db.getLatestHeight = some ((chain.length : Int) - 1)
  blocksRange : ∀ start stop : Int, db.getBlocksRangeFast start stop =
    .arr (((chain.take (start + 1).toNat).drop (stop + 1).toNat).reverse)

/-- Page `page` (from 1) of `chain` shown 20 blocks a page, newest first: the 20 blocks below the
newest `20 * (page - 1)`, or what is left of the chain. -/
def chainPage (chain : List Json) (page : Nat) : List Json :=
  ((chain.take (chain.length - 20 * (page - 1))).drop (chain.length - 20 * page)).reverse

/-- The database holds `validators` at its latest height `height`, in rank order: the count is
theirs, and `get_validators_range_at_height(height, start, end)` returns the ranks from `start` up
to below `end`. -/
structure ChainDb.HoldsValidators (db : ChainDb) (height : Int) (validators : List ValidatorRow) :
    Prop where
  latestHeight : db.getLatestHeight = some height
  validatorCount : db.getValidatorCountAtHeight height = some (validators.length : Int)
  validatorsRange : ∀ start stop : Int, db.getValidatorsRangeAtHeight height start stop =
    (validators.drop start.toNat).take (stop - start).toNat

/-- Page `page` (from 1) of `validators` shown 50 a page, in rank order. -/
def validatorPage (validators : List ValidatorRow) (page : Nat) : List ValidatorRow :=
  (validators.drop (50 * (page - 1))).take 50

/-- The database of a chain whose blocks are given: no validator, no statistics, the latest block
with zero targets. -/
def chainDb (chain : List Json) : ChainDb where
  getNetworkSpeed := .null
  getCurrentValidatorCount := .int 0
  getNetworkParticipationRate := .null
  getLatestBlock := some ⟨chain.length - 1, 0, 0, 0⟩
  getLatestHeight := some ((chain.length : Int) - 1)
  getRecentBlocksFast count := .arr (chain.reverse.take count.toNat)
  getBlocksRangeFast start stop :=
    .arr (((chain.take (start + 1).toNat).drop (stop + 1).toNat).reverse)
  getValidatorCountAtHeight _ := some 0
  getValidatorsRangeAtHeight _ _ _ := []
  getBlockByHeight height := chain[height.toNat]?
  getBlockCoinbaseRewardByHeight _ := none
  getValidatorByHeight _ := (.arr [], [])
  getSolutionByHeight _ _ _ := []
  getTotalSupplyAtHeight _ := .int 0

end AleoFinalize.Api
