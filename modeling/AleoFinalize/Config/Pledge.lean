import Mathlib.Data.List.Basic
import Mathlib.Data.Finset.Insert

/-!
**The pledge configuration** (`config/pledge.py`).

`PledgeConfig.from_env` reads `PLEDGE_ADDRESS` once: the first call parses it into the set of
addresses and keeps the config as the class's `_instance`; every later call returns that
instance. The variable is split at every `,` and each piece is stripped of Python whitespace.

* `isPySpace` — `str.isspace` of one character: general category Zs, or bidirectional class WS, B
  or S;
* `strip` — `str.strip()`;
* `pledgeAddresses` — lines 13-15, on the variable as `os.environ.get` returns it: the set of the
  stripped pieces, with no order and each address once;
* `PledgeConfig.fromEnv` — the classmethod, on the class's `_instance`.

The line 17 print of the number of addresses is output only and is left out.
-/

namespace AleoFinalize.Config

/-- Python's whitespace characters (`str.isspace`). -/
def isPySpace (c : Char) : Bool :=
  (0x09 ≤ c.val && c.val ≤ 0x0D) || (0x1C ≤ c.val && c.val ≤ 0x20) || c.val = 0x85 ||
    c.val = 0xA0 || c.val = 0x1680 || (0x2000 ≤ c.val && c.val ≤ 0x200A) || c.val = 0x2028 ||
    c.val = 0x2029 || c.val = 0x202F || c.val = 0x205F || c.val = 0x3000

/-- `str.strip()`: whitespace dropped at both ends. -/
def strip (chars : List Char) : List Char :=
  ((chars.dropWhile isPySpace).reverse.dropWhile isPySpace).reverse

/-- Lines 13-15: the set `{addr.strip() for addr in pledge_str.split(",")}` when the variable is set
and not empty, and the empty set otherwise. -/
def pledgeAddresses (pledgeStr : Option String) : Finset String :=
  match pledgeStr with
  | some pledgeStr =>
    if pledgeStr = "" then ∅
    else ((pledgeStr.data.splitOn ',').map fun piece => (⟨strip piece⟩ : String)).toFinset
  | none => ∅

structure PledgeConfig where
  addresses : Finset String

/-- `is_pledge_address`. -/
def PledgeConfig.isPledgeAddress (config : PledgeConfig) (address : String) : Bool :=
  decide (address ∈ config.addresses)

/-- `PledgeConfig.from_env`, with `PLEDGE_ADDRESS` as this call sees it, on the class's
`_instance`. -/
def PledgeConfig.fromEnv (environ : Option String) : StateM (Option PledgeConfig) PledgeConfig :=
  fun current => match current with
    | some config => (config, current)
    | none => (⟨pledgeAddresses environ⟩, some ⟨pledgeAddresses environ⟩)

/-- The configs a sequence of `from_env` calls returns, each call with the environment it sees. -/
def PledgeConfig.fromEnvRun : Option PledgeConfig → List (Option String) → List PledgeConfig
  | _, [] => []
  | current, environ :: environs =>
    (fromEnv environ current).1 :: fromEnvRun (fromEnv environ current).2 environs

end AleoFinalize.Config
