import Mathlib.Algebra.Order.Ring.Int
import AleoFinalize.Interpreter.Types

/-!
**Python's `math.ceil(n / d)` on ints.**

`n / d` of two ints is a float: CPython rounds the exact quotient to the nearest double, ties to
even, and raises `OverflowError` when that double would be `2 ^ 1024` or more; `math.ceil` then
rounds the double up to an int.

* `roundHalfEven` — `a / d` to the nearest whole number, ties to even;
* `binade` — the binary exponent of `a / d`, read from `Nat.log2`;
* `Binary64`, `nearestBinary64` — the double nearest `a / d`: 53 significant bits, spaced no finer
  than `2 ^ -1074` (the subnormals);
* `Binary64.ceil`, `Binary64.floor` — `math.ceil` and `math.floor` of a double;
* `ceilTrueDiv` — `math.ceil(n / d)` for an int `n` and `0 < d`, with the sign of `n`.
-/

namespace AleoFinalize.Api

/-- `a / d` rounded to a whole number, ties to even. -/
def roundHalfEven (a d : Nat) : Nat :=
  if 2 * (a % d) < d then a / d
  else if d < 2 * (a % d) then a / d + 1
  else if a / d % 2 = 0 then a / d else a / d + 1

/-- The binary exponent of `a / d`, for `0 < a` and `0 < d`: the `e` with
`2 ^ e ≤ a / d < 2 ^ (e + 1)`. -/
def binade (a d : Nat) : Int :=
  if d ≤ a then ((a / d).log2 : Nat) else -((((d - 1) / a).log2 + 1 : Nat) : Int)

/-- A non-negative double, `significand * 2 ^ exponent`. -/
structure Binary64 where
  significand : Nat
  exponent : Int

/-- The double nearest to `a / d`, for `0 < d`, ties to even; `none` from `2 ^ 1024` on, where
`int / int` raises `OverflowError`. -/
def nearestBinary64 (a d : Nat) : Option Binary64 :=
  let exponent := max (binade a d - 52) (-1074)
  let significand :=
    if exponent < 0 then roundHalfEven (a * 2 ^ (-exponent).toNat) d
    else roundHalfEven a (d * 2 ^ exponent.toNat)
  if 0 ≤ exponent ∧ 2 ^ 1024 ≤ significand * 2 ^ exponent.toNat then none
  else some ⟨significand, exponent⟩

/-- `math.ceil` of a double. -/
def Binary64.ceil (x : Binary64) : Nat :=
  if 0 ≤ x.exponent then x.significand * 2 ^ x.exponent.toNat
  else (x.significand + 2 ^ (-x.exponent).toNat - 1) / 2 ^ (-x.exponent).toNat

/-- `math.floor` of a double. -/
def Binary64.floor (x : Binary64) : Nat :=
  if 0 ≤ x.exponent then x.significand * 2 ^ x.exponent.toNat
  else x.significand / 2 ^ (-x.exponent).toNat

/-- `math.ceil(n / d)` for an int `n` and `0 < d`: the double nearest `|n| / d`, with the sign of
`n`, rounded up. -/
def ceilTrueDiv (n : Int) (d : Nat) : Except Fault Int :=
  match nearestBinary64 n.natAbs d with
  | none => .error .overflowError
  | some x => .ok (if 0 ≤ n then (x.ceil : Int) else -(x.floor : Int))

end AleoFinalize.Api
