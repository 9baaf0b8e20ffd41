import AleoFinalize.Api.Types
import AleoFinalize.WebApi.TrueDiv

/-!
**The chain routes of the web API** (`webapi/chain_routes.py`): `get_summary`,
`recent_blocks_route`, `index_update_route`, `block_route`, `blocks_route` and `validators_route`.

The routes read the database and page through it:

* `blocks_route` shows 20 blocks a page, newest first: page `p` asks `get_blocks_range_fast` for
  the window that starts at height `latest - 20 * (p - 1)` and runs down to 20 below it
  (`blocksWindow`), out of `math.ceil(total_blocks / 20)` pages, divided in floating point as
  Python divides (`ceilTrueDiv`);
* `validators_route` shows 50 validators a page: page `p` asks for the ranks
  `50 * (p - 1)` up to 50 above (`validatorsWindow`), out of `total // 50 + 1` pages;
* `index_update_route` hands a polling client the summary and at most 10 recent blocks: the
  blocks above its `last_block`, counted on the latest height it reads first and fetched, newest
  first, by a later read.

The database, Python's `int`, the `u64` constructor and
`UIAddress.resolve_recursive_detached` are collaborators; the four reads of `get_summary` are taken
as one.
-/

namespace AleoFinalize.Api

/-- The fields of the latest block `get_summary` reads. -/
structure LatestBlock where
  height : Int
  timestamp : Int
  proofTarget : Int
  coinbaseTarget : Int

/-- One row of `get_validators_range_at_height`. -/
structure ValidatorRow where
  address : String
  stake : Int
  uptime : Json
  commission : Json
  isOpen : Json

/-- One row of `get_solution_by_height`. -/
structure SolutionRow where
  address : String
  counter : Json
  target : Int
  reward : Json
  solutionId : Json

/-- The database as the chain routes read it. -/
structure ChainDb where
  getNetworkSpeed : Json
  getCurrentValidatorCount : Json
  getNetworkParticipationRate : Json
  getLatestBlock : Option LatestBlock
  getLatestHeight : Option Int
  /-- `get_recent_blocks_fast(count)`. -/
  getRecentBlocksFast : Int → Json
  /-- `get_blocks_range_fast(start, end)`. -/
  getBlocksRangeFast : Int → Int → Json
  getValidatorCountAtHeight : Int → Option Int
  /-- `get_validators_range_at_height(height, start, end)`. -/
  getValidatorsRangeAtHeight : Int → Int → Int → List ValidatorRow
  getBlockByHeight : Int → Option Json
  getBlockCoinbaseRewardByHeight : Int → Option Int
  /-- `get_validator_by_height(height)`: the validators, and the addresses of the raw rows (as the
  loop of lines 76-77 collects them). -/
  getValidatorByHeight : Int → Json × List String
  /-- `get_solution_by_height(height, start, end)`. -/
  getSolutionByHeight : Int → Int → Int → List SolutionRow
  /-- `Decimal(get_total_supply_at_height(height))`, rendered. -/
  getTotalSupplyAtHeight : Int → Json

/-- The other collaborators of the chain routes. -/
structure ChainHelpers where
  /-- Python's `int(text)`; `none` when it raises. -/
  int : String → Option Int
  /-- `u64(stake)`, rendered. -/
  u64 : Int → Except Fault Json
  /-- `UIAddress.resolve_recursive_detached(value, db, resolved)`: the addresses of `value`
  resolved, on top of those already `resolved`. -/
  resolveRecursiveDetached : Json → Json → Json

section Routes

variable (db : ChainDb) (helpers : ChainHelpers)

/-- `get_summary`: a missing latest block has no `height` (`AttributeError`). -/
def getSummary : Except Fault Json := do
  let some block := db.getLatestBlock | throw .attributeError
  return .obj [("latest_height", .int block.height), ("latest_timestamp", .int block.timestamp),
    ("proof_target", .int block.proofTarget), ("coinbase_target", .int block.coinbaseTarget),
    ("network_speed", db.getNetworkSpeed), ("validators", db.getCurrentValidatorCount),
    ("participation_rate", db.getNetworkParticipationRate)]

/-- `recent_blocks_route`. -/
def recentBlocksRoute : Response :=
  .json (db.getRecentBlocksFast 10)

/-- `index_update_route`, on its `last_block` query parameter. Each await reads the database as it
stands then: `get_summary` reads `db`, `get_latest_height` reads `heightDb` and
`get_recent_blocks_fast` reads `recentDb`; blocks may be committed in between. -/
def indexUpdateRoute (heightDb recentDb : ChainDb) (lastBlock : Option String) :
    Except Fault Response := do
  let some lastBlock := lastBlock | return .error "Missing last_block parameter" 400
  let some lastBlock := helpers.int lastBlock | return .error "Invalid last_block parameter" 400
  if lastBlock < 0 then return .error "Negative last_block parameter" 400
  let summary ← getSummary db
  let some latestHeight := heightDb.getLatestHeight | return .error "Database error" 500
  let blockCount := latestHeight - lastBlock
  if blockCount < 0 then return .json (.obj [("summary", summary)])
  let blockCount := if blockCount > 10 then 10 else blockCount
  return .json (.obj [("summary", summary),
    ("recent_blocks", recentDb.getRecentBlocksFast blockCount)])

/-- One iteration of the loop over the solutions of `block_route` (lines 82-90): the rendered
solution. -/
def solutionEntry (solution : SolutionRow) : Json :=
  .obj [("address", .str solution.address), ("counter", solution.counter),
    ("target", .int solution.target), ("reward", solution.reward),
    ("solution_id", solution.solutionId)]

/-- `block_route`, on its `height` path parameter. Its solutions are read only for a block with a
coinbase reward, the first 100 of them; `target_sum` is summed and never read, and is left out. -/
def blockRoute (height : String) : Response :=
  match helpers.int height with
  | none => .error "Invalid height" 400
  | some height =>
    match db.getBlockByHeight height with
    | none => .error "Block not found" 404
    | some block =>
      let coinbaseReward := db.getBlockCoinbaseRewardByHeight height
      let (validators, allValidators) := db.getValidatorByHeight height
      let css := match coinbaseReward with
        | some _ => (db.getSolutionByHeight height 0 100).map solutionEntry
        | none => []
      let result := [("block", block), ("coinbase_reward", Json.ofOption coinbaseReward),
        ("validators", validators), ("all_validators", .arr (allValidators.map .str)),
        ("solutions", .arr css), ("total_supply", db.getTotalSupplyAtHeight height)]
      .json (.obj (result ++ [("resolved_addresses", helpers.resolveRecursiveDetached (.obj result)
        (helpers.resolveRecursiveDetached (.arr css) (.obj [])))]))

/-- `int(p)` of the page parameter, 1 when there is none; `none` when it raises. -/
def pageParam (page : Option String) : Option Int :=
  match page with
  | none => some 1
  | some text => helpers.int text

/-- Lines 126-129 of `blocks_route`: the arguments `(start, start - 20)` page `page` hands to
`get_blocks_range_fast`, when it is one of the `totalPages` pages. -/
def blocksWindow (totalBlocks totalPages page : Int) : Option (Int × Int) :=
  if page < 1 ∨ page > totalPages then none
  else
    let start := totalBlocks - 1 - 20 * (page - 1)
    some (start, start - 20)

/-- `blocks_route`, on its page parameter; `OverflowError` when `total_blocks / 20` is too large
for a float. -/
def blocksRoute (page : Option String) : Except Fault Response := do
  let some page := pageParam helpers page | return .error "Invalid page" 400
  let some latestHeight := db.getLatestHeight | return .error "No blocks found" 500
  if latestHeight = 0 then return .error "No blocks found" 500
  let totalBlocks := latestHeight + 1
  let totalPages ← ceilTrueDiv totalBlocks 20
  let some (start, stop) := blocksWindow totalBlocks totalPages page
    | return .error "Invalid page" 400
  return .json (.obj [("blocks", db.getBlocksRangeFast start stop),
    ("total_blocks", .int totalBlocks), ("total_pages", .int totalPages)])

/-- Lines 150-154 of `validators_route`: the ranks `(start, start + 50)` page `page` asks for, when
it is one of the `total_validators // 50 + 1` pages. -/
def validatorsWindow (totalValidators page : Int) : Option (Int × Int) :=
  let totalPages := totalValidators / 50 + 1
  if page < 1 ∨ page > totalPages then none
  else
    let start := 50 * (page - 1)
    some (start, start + 50)

/-- One iteration of the loop of lines 157-165: the rendered validator. -/
def validatorEntry (row : ValidatorRow) : Except Fault Json := do
  return .obj [("address", .str row.address), ("stake", ← helpers.u64 row.stake),
    ("uptime", row.uptime), ("commission", row.commission), ("open", row.isOpen)]

/-- `validators_route`, on its page parameter. -/
def validatorsRoute (page : Option String) : Except Fault Response := do
  let some page := pageParam helpers page | return .error "Invalid page" 400
  let some latestHeight := db.getLatestHeight | return .error "No blocks found" 500
  let some totalValidators := (db.getValidatorCountAtHeight latestHeight).filter (· ≠ 0)
    | return .error "No validators found" 500
  let some (start, stop) := validatorsWindow totalValidators page
    | return .error "Invalid page" 400
  let rows := db.getValidatorsRangeAtHeight latestHeight start stop
  let validators ← rows.mapM (validatorEntry helpers)
  let totalStake := rows.foldl (fun total row => total + row.stake) 0
  let result := [("validators", .arr validators), ("total_stake", .int totalStake),
    ("page", .int page), ("total_pages", .int (totalValidators / 50 + 1))]
  return .json (.obj (result ++
    [("resolved_addresses", helpers.resolveRecursiveDetached (.obj result) (.obj []))]))

end Routes

end AleoFinalize.Api
