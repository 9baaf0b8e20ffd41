import Mathlib.Tactic.Ring
import AleoFinalize.WebApi.TrueDiv

/-!
**Where `math.ceil(n / d)` is the ceiling of the quotient.**

The doubles near `n / d` are `2 ^ (e - 52)` apart, `e` the binary exponent of the quotient; once
that spacing is below `2 / d`, a quotient with a remainder lies more than half a spacing above the
whole number below it and is never rounded down onto it.

* `roundHalfEven_cases` — the rounded quotient is `a / d` or `a / d + 1`, with the remainder
  condition of each;
* `roundHalfEven_ceil` — rounding `a * scale / d` to the nearest whole number and then up in units
  of `scale` gives `⌈a / d⌉` when `d < 2 * scale`;
* `binade_le` — below `d * 2 ^ (e + 1)` the binary exponent of `a / d` is at most `e`;
* **`ceilTrueDiv_eq`** — for `0 ≤ n < d * 2 ^ (e + 1)` with `e < 52` and `d < 2 ^ (53 - e)`,
  `math.ceil(n / d)` is `⌈n / d⌉`;
* `ceilTrueDiv_twenty` — the case of `blocks_route`: every `n` below `20 * 2 ^ 49`;
* `ceilTrueDiv_twenty_rounds_down` — at `20 * 2 ^ 49 + 1` the quotient `2 ^ 49 + 1 / 20` rounds
  to `2 ^ 49`, one less than the ceiling.
-/

namespace AleoFinalize.Api

/-- The rounded quotient is `a / d` when the remainder is at most half of `d`, and `a / d + 1`
when it is at least half. -/
theorem roundHalfEven_cases (a d : Nat) :
    (roundHalfEven a d = a / d ∧ 2 * (a % d) ≤ d) ∨
      (roundHalfEven a d = a / d + 1 ∧ d ≤ 2 * (a % d)) := by
  unfold roundHalfEven
  split_ifs with below above
  · exact .inl ⟨rfl, by omega⟩
  · exact .inr ⟨rfl, by omega⟩
  · exact .inl ⟨rfl, by omega⟩
  · exact .inr ⟨rfl, by omega⟩

/-- The rounded quotient of `a * scale` by `d` is `scale * (a / d)` plus a part that is `0` when `d`
divides `a`, and otherwise between `1` and `scale`. -/
theorem roundHalfEven_above {a d scale : Nat} (positive : 0 < d) (fine : d < 2 * scale) :
    ∃ t, roundHalfEven (a * scale) d = scale * (a / d) + t ∧ (a % d = 0 → t = 0) ∧
      (0 < a % d → 1 ≤ t ∧ t ≤ scale) := by
  have split : a * scale = d * (scale * (a / d)) + a % d * scale := by
    conv_lhs => rw [← Nat.div_add_mod a d]
    ring
  have quotient : a * scale / d = scale * (a / d) + a % d * scale / d := by
    rw [split, Nat.mul_add_div positive]
  have remainder : a * scale % d = a % d * scale % d := by rw [split, Nat.mul_add_mod]
  have whole := Nat.div_add_mod (a % d * scale) d
  have under : a % d * scale / d < scale :=
    (Nat.div_lt_iff_lt_mul positive).mpr (by
      rw [Nat.mul_comm scale]
      exact Nat.mul_lt_mul_of_pos_right (Nat.mod_lt a positive) (by omega))
  have zero : a % d * scale / d = 0 ∧ d * (a % d * scale / d) = 0 ∨
      0 < a % d * scale / d ∧ d ≤ d * (a % d * scale / d) := by
    rcases Nat.eq_zero_or_pos (a % d * scale / d) with none | some
    · exact .inl ⟨none, by rw [none, Nat.mul_zero]⟩
    · exact .inr ⟨some, Nat.le_mul_of_pos_right d some⟩
  have scaled : a % d = 0 ∨ scale ≤ a % d * scale := by
    rcases Nat.eq_zero_or_pos (a % d) with none | some
    · exact .inl none
    · exact .inr (Nat.le_mul_of_pos_left scale some)
  have nothing : a % d = 0 → a % d * scale = 0 := fun none => by rw [none, Nat.zero_mul]
  have cases := roundHalfEven_cases (a * scale) d
  rw [quotient, remainder] at cases
  -- `part = a % d * scale` splits by `d` into `quot` and `rest`; what is left is linear
  generalize a % d * scale / d = quot at *
  generalize a % d * scale % d = rest at *
  generalize a % d * scale = part at *
  generalize d * quot = multiple at *
  rcases cases with ⟨rounded, below⟩ | ⟨rounded, above⟩
  · exact ⟨quot, rounded, by omega, by omega⟩
  · exact ⟨quot + 1, by rw [rounded, Nat.add_assoc], by omega, by omega⟩

/-- Rounding `a * scale / d` to the nearest whole number and then up in units of `scale` gives
`⌈a / d⌉` when `scale` is more than half of `d`. -/
theorem roundHalfEven_ceil {a d scale : Nat} (positive : 0 < d) (fine : d < 2 * scale) :
    (roundHalfEven (a * scale) d + scale - 1) / scale = (a + d - 1) / d := by
  obtain ⟨t, rounded, exact, inexact⟩ := roundHalfEven_above (a := a) positive fine
  have whole := Nat.div_add_mod a d
  have remainder := Nat.mod_lt a positive
  have left : scale * (a / d) + t + scale - 1 = scale * (a / d) + (t + scale - 1) := by omega
  have right : a + d - 1 = d * (a / d) + (a % d + d - 1) := by omega
  rw [rounded, left, right, Nat.mul_add_div (by omega), Nat.mul_add_div positive]
  congr 1
  rcases Nat.eq_zero_or_pos (a % d) with none | some
  · rw [exact none, none, Nat.div_eq_of_lt (by omega), Nat.div_eq_of_lt (by omega)]
  · obtain ⟨lo, hi⟩ := inexact some
    rw [Nat.div_eq_of_lt_le (k := 1) (by omega) (by omega),
      Nat.div_eq_of_lt_le (k := 1) (by omega) (by omega)]

/-- Below `d * 2 ^ (e + 1)` the binary exponent of `a / d` is at most `e`. -/
theorem binade_le {a d e : Nat} (below : a < d * 2 ^ (e + 1)) : binade a d ≤ e := by
  unfold binade
  split_ifs with large
  · have positive : 0 < d := Nat.pos_of_ne_zero fun zero => by simp [zero] at below
    have bound : (a / d).log2 < e + 1 :=
      (Nat.log2_lt (Nat.div_pos large positive).ne').mpr
        ((Nat.div_lt_iff_lt_mul positive).mpr (by rwa [Nat.mul_comm] at below))
    omega
  · omega

/-- A non-negative int divides to its nearest double, and `math.ceil` rounds that up. -/
theorem ceilTrueDiv_ofNat {a d : Nat} {x : Binary64} (nearest : nearestBinary64 a d = some x) :
    ceilTrueDiv a d = .ok x.ceil := by
  simp only [ceilTrueDiv, Int.natAbs_ofNat, nearest, Int.ofNat_zero_le, if_true]

/-- **`math.ceil(n / d)` is `⌈n / d⌉` where the doubles are fine enough**: for `0 ≤ n` below
`d * 2 ^ (e + 1)`, with `e < 52` and `d < 2 ^ (53 - e)`. -/
theorem ceilTrueDiv_eq {n : Int} {d e : Nat} (nonneg : 0 ≤ n) (below : n < d * 2 ^ (e + 1))
    (precise : e < 52) (fine : d < 2 ^ (53 - e)) : ceilTrueDiv n d = .ok ((n + d - 1) / d) := by
  obtain ⟨a, rfl⟩ := Int.eq_ofNat_of_zero_le nonneg
  have within : a < d * 2 ^ (e + 1) := by exact_mod_cast below
  have positive : 0 < d := Nat.pos_of_ne_zero fun zero => by simp [zero] at within
  have exponent := binade_le within
  generalize spacing : max (binade a d - 52) (-1074) = x
  have least : binade a d - 52 ≤ x := spacing ▸ le_max_left _ _
  have most : x = binade a d - 52 ∨ x = -1074 := spacing ▸ max_choice _ _
  have negative : x < 0 := by omega
  have scaled : d < 2 * 2 ^ (-x).toNat :=
    calc d < 2 ^ (53 - e) := fine
      _ = 2 * 2 ^ (52 - e) := by rw [show 53 - e = 52 - e + 1 by omega, Nat.pow_succ, Nat.mul_comm]
      _ ≤ 2 * 2 ^ (-x).toNat := Nat.mul_le_mul_left 2 (Nat.pow_le_pow_right (by norm_num) (by omega))
  simp only [ceilTrueDiv, nearestBinary64, Int.natAbs_ofNat, spacing, if_pos negative,
    not_le.mpr negative, false_and, if_false, Binary64.ceil, Int.ofNat_zero_le, if_true,
    roundHalfEven_ceil positive scaled]
  rw [show (a : Int) + d - 1 = ((a + d - 1 : Nat) : Int) by omega, Int.ofNat_ediv]

/-- `math.ceil(n / 20)` is `⌈n / 20⌉` for every `n` from 0 to below `20 * 2 ^ 49`. -/
theorem ceilTrueDiv_twenty {n : Int} (nonneg : 0 ≤ n) (below : n < 20 * 2 ^ 49) :
    ceilTrueDiv n 20 = .ok ((n + 19) / 20) :=
  (ceilTrueDiv_eq (e := 48) nonneg below (by decide) (by decide)).trans
    (congrArg Except.ok (by push_cast; omega))

/-- `(20 * 2 ^ 49 + 1) / 20` lies in the binade of `2 ^ 49`. -/
theorem binade_twenty_rounds_down : binade (20 * 2 ^ 49 + 1) 20 = 49 := by
  rw [binade, if_pos (by decide), show (20 * 2 ^ 49 + 1) / 20 = 2 ^ 49 by norm_num,
    Nat.log2_two_pow]
  rfl

/-- The doubles near `2 ^ 49 + 1 / 20` are `2 ^ -3` apart, and `1 / 20` is less than half of that:
the quotient is the double `2 ^ 52 * 2 ^ -3`. -/
theorem nearestBinary64_twenty_rounds_down :
    nearestBinary64 (20 * 2 ^ 49 + 1) 20 = some ⟨2 ^ 52, -3⟩ := by
  have exponent : max ((49 : Nat) - 52 : Int) (-1074) = -3 := by decide
  have rounded : roundHalfEven ((20 * 2 ^ 49 + 1) * 2 ^ 3) 20 = 2 ^ 52 := by decide
  simp only [nearestBinary64, binade_twenty_rounds_down, exponent]
  rw [← rounded]
  rfl

/-- `math.ceil((20 * 2 ** 49 + 1) / 20)` is `2 ** 49`, where the ceiling is `2 ^ 49 + 1`. -/
theorem ceilTrueDiv_twenty_rounds_down : ceilTrueDiv (20 * 2 ^ 49 + 1) 20 = .ok (2 ^ 49) := by
  have natural : (20 * 2 ^ 49 + 1 : Int) = ((20 * 2 ^ 49 + 1 : Nat) : Int) := by norm_num
  have ceiled : Binary64.ceil ⟨2 ^ 52, -3⟩ = 2 ^ 49 := by decide
  rw [natural, ceilTrueDiv_ofNat nearestBinary64_twenty_rounds_down, ceiled]
  norm_num

end AleoFinalize.Api
