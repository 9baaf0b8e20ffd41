import AleoFinalize.Spec.Chain
import AleoFinalize.Proof.WebApi.TrueDiv

/-!
**How the chain routes page.**

* `blocksWindow_eq_some`, `validatorsWindow_eq_some` — the pages a route accepts and the window
  each asks the database for;
* **`validatorsWindow_pages`** — every validator rank lies in the window of exactly one accepted
  page of `validators_route`; an accepted page holds no validator exactly when the count is a
  multiple of 50 and it is the last page, which `total_validators // 50 + 1` then counts one too
  many;
* `flatMap_chainPage` — the first pages of a chain hold its newest blocks, newest first;
* `blocksRoute_holds` — on a database holding a chain of `n` blocks, `n ≠ 1`, below `20 * 2 ^ 49`
  blocks, where `math.ceil(total_blocks / 20)` is `⌈n / 20⌉`: what the route answers each page;
* **`blocksRoute_accepts`** — the route answers "No blocks found" at latest height 0, and
  otherwise accepts exactly the pages `1` to `⌈n / 20⌉`, none of them empty;
* **`blocksRoute_pages`** — on a database that holds a chain of two blocks or more, page `p` of
  `blocks_route` shows `chainPage chain p`, and the pages in order show the whole chain, newest
  first, each block once;
* `blocksRoute_lastPage_refused` — the bound is needed: at latest height `20 * 2 ^ 49` the float
  quotient rounds down, and the page holding the genesis block is refused;
* `flatMap_validatorPage`, `mapM_validatorEntry_ok` — the first pages of the validators, and the
  loop that renders them;
* **`validatorsRoute_pages`** — page `p` of `validators_route` lists `validatorPage validators p`
  with the page's stake as `total_stake`, and the pages in order list every validator once.

Windows are read as `blocks_route` and `validators_route` pass them: `(start, start - 20)` holds the
heights above `start - 20` up to `start`, `(start, start + 50)` the ranks from `start` up to below
`start + 50`.
-/

namespace AleoFinalize.Api

/-! ### Blocks -/

/-- The pages `blocks_route` accepts are `1` to `totalPages`; page `p` asks for the 20 heights
below `totalBlocks - 1 - 20 * (p - 1)`, that one included. -/
theorem blocksWindow_eq_some {totalBlocks totalPages page start stop : Int} :
    blocksWindow totalBlocks totalPages page = some (start, stop) ↔
      1 ≤ page ∧ page ≤ totalPages ∧ start = totalBlocks - 1 - 20 * (page - 1) ∧
        stop = start - 20 := by
  simp only [blocksWindow]
  split_ifs with rejected
  · simp only [reduceCtorEq, false_iff]
    omega
  · simp only [Option.some.injEq, Prod.mk.injEq]
    omega

/-! ### Validators -/

/-- The pages `validators_route` accepts are `1` to `total // 50 + 1`; page `p` asks for the ranks
from `50 * (p - 1)` up to below `50 * p`. -/
theorem validatorsWindow_eq_some {totalValidators page start stop : Int} :
    validatorsWindow totalValidators page = some (start, stop) ↔
      1 ≤ page ∧ page ≤ totalValidators / 50 + 1 ∧ start = 50 * (page - 1) ∧
        stop = start + 50 := by
  simp only [validatorsWindow]
  split_ifs with rejected
  · simp only [reduceCtorEq, false_iff]
    omega
  · simp only [Option.some.injEq, Prod.mk.injEq]
    omega

/-- **`validators_route` covers every validator once, with one empty page on a multiple of 50.**
Every rank below the count lies in the window of exactly one accepted page; an accepted page's
window holds no rank below the count exactly when the count is a multiple of 50 and the page is
the last one. -/
theorem validatorsWindow_pages (totalValidators : Int) :
    (∀ rank, 0 ≤ rank → rank < totalValidators →
      ∃! page, ∃ start stop, validatorsWindow totalValidators page = some (start, stop) ∧
        start ≤ rank ∧ rank < stop) ∧
    ∀ page start stop, validatorsWindow totalValidators page = some (start, stop) →
      ((∀ rank, start ≤ rank → rank < stop → totalValidators ≤ rank) ↔
        totalValidators % 50 = 0 ∧ page = totalValidators / 50 + 1) := by
  constructor
  · intro rank above below
    refine ⟨rank / 50 + 1, ⟨_, _, validatorsWindow_eq_some.mpr
      ⟨by omega, by omega, rfl, rfl⟩, by omega, by omega⟩, ?_⟩
    rintro page ⟨start, stop, window, lowest, upTo⟩
    obtain ⟨-, -, rfl, rfl⟩ := validatorsWindow_eq_some.mp window
    omega
  · intro page start stop window
    obtain ⟨first, last, rfl, rfl⟩ := validatorsWindow_eq_some.mp window
    constructor
    · intro empty
      have beyond := empty (50 * (page - 1)) (Int.le_refl _) (by omega)
      omega
    · rintro ⟨divisible, rfl⟩ rank lowest upTo
      omega

/-! ### The blocks of the pages -/

variable {helpers : ChainHelpers}

/-- The first `pages` pages of a chain hold, in order, its newest `20 * pages` blocks, newest
first. -/
theorem flatMap_chainPage (chain : List Json) :
    ∀ pages, (List.range pages).flatMap (fun index => chainPage chain (index + 1)) =
      (chain.drop (chain.length - 20 * pages)).reverse
  | 0 => by simp
  | pages + 1 => by
    rw [List.range_succ, List.flatMap_append, flatMap_chainPage chain pages, List.flatMap_singleton,
      chainPage, Nat.add_sub_cancel, ← List.reverse_append]
    congr 1
    have within :
        chain.length - 20 * (pages + 1) ≤ (chain.take (chain.length - 20 * pages)).length := by
      rw [List.length_take]; omega
    rw [← List.drop_append_of_le_length within, List.take_append_drop]

/-- A page from `1` to `⌈n / 20⌉` of a chain of `n` blocks holds a block. -/
theorem chainPage_ne_nil {chain : List Json} {page : Nat} (first : 1 ≤ page)
    (last : page ≤ (chain.length + 19) / 20) : chainPage chain page ≠ [] := by
  apply List.ne_nil_of_length_pos
  simp only [chainPage, List.length_reverse, List.length_drop, List.length_take]
  omega

/-- On a database holding a chain of `n` blocks, `n ≠ 1` and `n` below `20 * 2 ^ 49`, a page
parameter that parses to `page` is shown as `chainPage chain page` when `page` is one of the
`⌈n / 20⌉` pages, and answered "Invalid page" otherwise. -/
theorem blocksRoute_holds {db : ChainDb} {chain : List Json} (holds : db.HoldsBlocks chain)
    (notGenesis : chain.length ≠ 1) (bounded : chain.length < 20 * 2 ^ 49)
    {param : Option String} {page : Int} (parsed : pageParam helpers param = some page) :
    blocksRoute db helpers param =
      if 1 ≤ page ∧ page ≤ (chain.length + 19) / 20 then
        .ok (.json (.obj [("blocks", .arr (chainPage chain page.toNat)),
          ("total_blocks", .int chain.length), ("total_pages", .int ((chain.length + 19) / 20))]))
      else .ok (.error "Invalid page" 400) := by
  have latest : (chain.length : Int) - 1 ≠ 0 := by omega
  have pages : ceilTrueDiv chain.length 20 = .ok ((chain.length + 19) / 20) :=
    ceilTrueDiv_twenty (by omega) (by exact_mod_cast bounded)
  simp only [blocksRoute, parsed, holds.latestHeight, if_neg latest, Int.sub_add_cancel, pages,
    bind, Except.bind, pure, Except.pure]
  split_ifs with accepted
  · have window : blocksWindow chain.length ((chain.length + 19) / 20) page =
        some ((chain.length : Int) - 1 - 20 * (page - 1),
          (chain.length : Int) - 1 - 20 * (page - 1) - 20) :=
      blocksWindow_eq_some.mpr ⟨accepted.1, accepted.2, rfl, rfl⟩
    simp only [window, holds.blocksRange, chainPage, Int.sub_add_cancel]
    have newest : ((chain.length : Int) - 1 - 20 * (page - 1) + 1).toNat =
        chain.length - 20 * (page.toNat - 1) := by omega
    have oldest : ((chain.length : Int) - 1 - 20 * (page - 1) - 20 + 1).toNat =
        chain.length - 20 * page.toNat := by omega
    rw [newest, oldest]
  · have refused : blocksWindow chain.length ((chain.length + 19) / 20) page = none := by
      simp only [blocksWindow]
      rw [if_pos (by omega)]
    simp only [refused]

/-- **`blocks_route` accepts exactly the pages of the chain, none of them empty.** On a database
holding a chain of fewer than `20 * 2 ^ 49` blocks, for a page parameter that parses to `page`:
with one block (latest height 0) the route answers "No blocks found"; otherwise it shows a
nonempty page exactly when `1 ≤ page ≤ ⌈n / 20⌉`, and answers "Invalid page" for every other
page. -/
theorem blocksRoute_accepts {db : ChainDb} {chain : List Json} (holds : db.HoldsBlocks chain)
    (bounded : chain.length < 20 * 2 ^ 49) {param : Option String} {page : Int}
    (parsed : pageParam helpers param = some page) :
    (chain.length = 1 →
      blocksRoute db helpers param = .ok (.error "No blocks found" 500)) ∧
    (chain.length ≠ 1 →
      (1 ≤ page ∧ page ≤ (chain.length + 19) / 20 → ∃ blocks, blocks ≠ [] ∧
        blocksRoute db helpers param = .ok (.json (.obj [("blocks", .arr blocks),
          ("total_blocks", .int chain.length),
          ("total_pages", .int ((chain.length + 19) / 20))]))) ∧
      (¬ (1 ≤ page ∧ page ≤ (chain.length + 19) / 20) →
        blocksRoute db helpers param = .ok (.error "Invalid page" 400))) := by
  refine ⟨fun genesis => ?_, fun notGenesis => ⟨fun accepted => ?_, fun refused => ?_⟩⟩
  · simp only [blocksRoute, parsed, holds.latestHeight, genesis, Nat.cast_one, sub_self,
      if_true, bind, Except.bind, pure, Except.pure]
  · refine ⟨chainPage chain page.toNat, chainPage_ne_nil (by omega) (by omega), ?_⟩
    rw [blocksRoute_holds holds notGenesis bounded parsed, if_pos accepted]
  · rw [blocksRoute_holds holds notGenesis bounded parsed, if_neg refused]

/-- **`blocks_route` pages through the whole chain.** On a database holding a chain of two blocks
or more and fewer than `20 * 2 ^ 49`, an accepted page `p` shows `chainPage chain p`, and the pages
`1` to `ceil(total_blocks / 20)` show, in order, every block of the chain once, newest first. -/
theorem blocksRoute_pages {db : ChainDb} {chain : List Json} (holds : db.HoldsBlocks chain)
    (several : 2 ≤ chain.length) (bounded : chain.length < 20 * 2 ^ 49) :
    (∀ text page, helpers.int text = some page → 1 ≤ page →
      page ≤ (chain.length + 19) / 20 →
      blocksRoute db helpers (some text) =
        .ok (.json (.obj [("blocks", .arr (chainPage chain page.toNat)),
          ("total_blocks", .int chain.length),
          ("total_pages", .int ((chain.length + 19) / 20))]))) ∧
    (List.range ((chain.length + 19) / 20)).flatMap (fun index => chainPage chain (index + 1)) =
      chain.reverse := by
  refine ⟨fun text page parsed first last => ?_, ?_⟩
  · rw [blocksRoute_holds holds (by omega) bounded
      (show pageParam helpers (some text) = some page from parsed), if_pos ⟨first, last⟩]
  · rw [flatMap_chainPage, Nat.sub_eq_zero_of_le (by omega), List.drop_zero]

/-- **Past `20 * 2 ^ 49` blocks the oldest block falls off the pages.** At latest height
`20 * 2 ^ 49`, `total_blocks / 20` is `2 ^ 49 + 1 / 20`, which rounds to the double `2 ^ 49`: the
route counts `2 ^ 49` pages and refuses page `2 ^ 49 + 1`, the one page whose window holds height
0. -/
theorem blocksRoute_lastPage_refused {db : ChainDb} (latest : db.getLatestHeight = some (20 * 2 ^ 49))
    {text : String} (parsed : helpers.int text = some (2 ^ 49 + 1)) :
    blocksWindow (20 * 2 ^ 49 + 1) (2 ^ 49 + 1) (2 ^ 49 + 1) = some (0, -20) ∧
      blocksRoute db helpers (some text) = .ok (.error "Invalid page" 400) := by
  refine ⟨blocksWindow_eq_some.mpr (by decide), ?_⟩
  have refused : blocksWindow (20 * 2 ^ 49 + 1) (2 ^ 49) (2 ^ 49 + 1) = none := by
    rw [blocksWindow, if_pos (by decide)]
  have counted : (20 * 2 ^ 49 : Int) ≠ 0 := by decide
  simp only [blocksRoute, pageParam, parsed, latest, if_neg counted]
  rw [ceilTrueDiv_twenty_rounds_down]
  simp only [refused, bind, Except.bind, pure, Except.pure]

/-! ### The validators of the pages -/

/-- The first `pages` pages hold, in order, the first `50 * pages` validators. -/
theorem flatMap_validatorPage (validators : List ValidatorRow) :
    ∀ pages, (List.range pages).flatMap (fun index => validatorPage validators (index + 1)) =
      validators.take (50 * pages)
  | 0 => by simp
  | pages + 1 => by
    rw [List.range_succ, List.flatMap_append, flatMap_validatorPage validators pages,
      List.flatMap_singleton, validatorPage, Nat.add_sub_cancel, Nat.mul_succ, List.take_add]

/-- The loop of `validators_route` renders every row whose stake `u64` takes. -/
theorem mapM_validatorEntry_ok :
    ∀ rows : List ValidatorRow,
      (∀ row ∈ rows, ∃ stake, helpers.u64 row.stake = .ok stake) →
        ∃ rendered, rows.mapM (validatorEntry helpers) = .ok rendered
  | [], _ => ⟨[], rfl⟩
  | row :: rows, converts => by
    obtain ⟨stake, converted⟩ := converts row (List.mem_cons_self _ _)
    obtain ⟨rendered, rest⟩ :=
      mapM_validatorEntry_ok rows fun other member => converts other (List.mem_cons_of_mem _ member)
    simp only [List.mapM_cons, validatorEntry, converted, rest, bind, Except.bind, pure,
      Except.pure]
    exact ⟨_, rfl⟩

/-- **`validators_route` lists every validator once.** On a database holding the validators at
its latest height, each accepted page `p` lists `validatorPage validators p`, rendered, with the sum
of their stakes as `total_stake` (the page's stake, not the network's), and the pages `1` to
`total_validators // 50 + 1` list, in order, every validator once. -/
theorem validatorsRoute_pages {db : ChainDb} {height : Int} {validators : List ValidatorRow}
    (holds : db.HoldsValidators height validators) (listed : validators ≠ [])
    (converts : ∀ row ∈ validators, ∃ stake, helpers.u64 row.stake = .ok stake) :
    (∀ text page, helpers.int text = some page → 1 ≤ page →
      page ≤ validators.length / 50 + 1 →
      ∃ rendered,
        (validatorPage validators page.toNat).mapM (validatorEntry helpers) = .ok rendered ∧
        let stake :=
          (validatorPage validators page.toNat).foldl (fun total row => total + row.stake) 0
        let result := [("validators", .arr rendered), ("total_stake", .int stake),
          ("page", .int page), ("total_pages", .int (validators.length / 50 + 1))]
        validatorsRoute db helpers (some text) = .ok (.json (.obj (result ++
          [("resolved_addresses", helpers.resolveRecursiveDetached (.obj result) (.obj []))])))) ∧
    (List.range (validators.length / 50 + 1)).flatMap
      (fun index => validatorPage validators (index + 1)) = validators := by
  refine ⟨fun text page parsed first last => ?_, ?_⟩
  · obtain ⟨rendered, rendering⟩ :=
      mapM_validatorEntry_ok (validatorPage validators page.toNat) fun row member =>
        converts row (List.mem_of_mem_drop (List.mem_of_mem_take member))
    refine ⟨rendered, rendering, ?_⟩
    have counted : (validators.length : Int) ≠ 0 := by
      have := List.length_pos.mpr listed; omega
    have window : validatorsWindow validators.length page =
        some (50 * (page - 1), 50 * (page - 1) + 50) :=
      validatorsWindow_eq_some.mpr ⟨first, last, rfl, rfl⟩
    simp only [validatorsRoute, pageParam, parsed, holds.latestHeight, holds.validatorCount,
      Option.filter, ne_eq, counted, not_false_eq_true, decide_True, if_true, window,
      holds.validatorsRange]
    have paged : (validators.drop (50 * (page - 1)).toNat).take
        (50 * (page - 1) + 50 - 50 * (page - 1)).toNat = validatorPage validators page.toNat := by
      rw [validatorPage]
      congr 2 <;> omega
    rw [paged, rendering]
    rfl
  · rw [flatMap_validatorPage, List.take_of_length_le (by omega)]

/-- Python's `int` on the digits `0` to `9`. -/
def digitHelpers : ChainHelpers :=
  ⟨fun text => match text.data with
    | [c] => if c.isDigit then some (c.toNat - 48 : Nat) else none
    | _ => none,
   fun stake => .ok (.int stake), fun _ resolved => resolved⟩

/-- A chain of three blocks, each rendered as its height. -/
def threeBlocks : List Json := [.int 0, .int 1, .int 2]

/-- The one page of a chain of three blocks. -/
theorem blocksRoute_pages_threeBlocks :
    ((chainDb threeBlocks).HoldsBlocks threeBlocks ∧ 2 ≤ threeBlocks.length ∧
        threeBlocks.length < 20 * 2 ^ 49) ∧
      blocksRoute (chainDb threeBlocks) digitHelpers (some "1") =
        .ok (.json (.obj [("blocks", .arr [.int 2, .int 1, .int 0]), ("total_blocks", .int 3),
          ("total_pages", .int 1)])) :=
  have holds : (chainDb threeBlocks).HoldsBlocks threeBlocks := ⟨rfl, fun _ _ => rfl⟩
  ⟨⟨holds, by decide, by decide⟩,
    (blocksRoute_pages holds (by decide) (by decide)).1 "1" 1 rfl (by decide) (by decide)⟩

/-- Page 2 of a chain of three blocks is refused. -/
theorem blocksRoute_accepts_threeBlocks :
    ((chainDb threeBlocks).HoldsBlocks threeBlocks ∧ threeBlocks.length < 20 * 2 ^ 49 ∧
      pageParam digitHelpers (some "2") = some 2) ∧
    blocksRoute (chainDb threeBlocks) digitHelpers (some "2") = .ok (.error "Invalid page" 400) :=
  have holds : (chainDb threeBlocks).HoldsBlocks threeBlocks := ⟨rfl, fun _ _ => rfl⟩
  ⟨⟨holds, by decide, rfl⟩,
    ((blocksRoute_accepts holds (by decide)
      (show pageParam digitHelpers (some "2") = some 2 from rfl)).2 (by decide)).2 (by decide)⟩

/-- Two validators, open and closed. -/
def twoValidators : List ValidatorRow :=
  [⟨"aleo1a", 10, .null, .null, .bool true⟩, ⟨"aleo1b", 5, .null, .null, .bool false⟩]

/-- The database of `threeBlocks` with `twoValidators` at its latest height. -/
def validatorDb : ChainDb :=
  { chainDb threeBlocks with
    getValidatorCountAtHeight := fun _ => some twoValidators.length
    getValidatorsRangeAtHeight := fun _ start stop =>
      (twoValidators.drop start.toNat).take (stop - start).toNat }

/-- Two validators fill one page. -/
theorem validatorsRoute_pages_twoValidators :
    (validatorDb.HoldsValidators 2 twoValidators ∧ twoValidators ≠ [] ∧
      ∀ row ∈ twoValidators, ∃ stake, digitHelpers.u64 row.stake = .ok stake) ∧
    (List.range (twoValidators.length / 50 + 1)).flatMap
      (fun index => validatorPage twoValidators (index + 1)) = twoValidators :=
  have holds : validatorDb.HoldsValidators 2 twoValidators := ⟨rfl, rfl, fun _ _ => rfl⟩
  have converts : ∀ row ∈ twoValidators, ∃ stake, digitHelpers.u64 row.stake = .ok stake :=
    fun _ _ => ⟨_, rfl⟩
  ⟨⟨holds, nofun, converts⟩, (validatorsRoute_pages holds nofun converts).2⟩

end AleoFinalize.Api
