import Mathlib.Algebra.Order.Field.Power
import Mathlib.Data.Rat.Cast.Order
import Mathlib.Tactic.FieldSimp
import Mathlib.Tactic.Linarith
import Mathlib.Tactic.Positivity
import Mathlib.Tactic.Ring
import ResourcePaths.Number.Dyadic

/-!
# The error of rounding

A quotient is rounded to a mantissa of 53 bits, or, where it is too small for that, to a multiple of
the least power of two.  Half a unit in the last place of the mantissa is at most the part `2 ^ -53`
of the quotient; half the least power of two is `2 ^ -1075`.  A quotient that a mantissa can hold is
not changed at all.
-/

namespace ResourcePaths
namespace Dyadic

/-- The number itself. -/
def value (x : Dyadic) : ℚ := x.mantissa * (2 : ℚ) ^ x.exponent

/-- The part of a quotient that its rounding may change. -/
def relativeError : ℚ := (2 : ℚ) ^ (-53 : ℤ)

/-- What the rounding of the smallest quotients may change. -/
def absoluteError : ℚ := (2 : ℚ) ^ (-1075 : ℤ)

theorem relativeError_pos : 0 < relativeError := by
  unfold relativeError
  positivity

theorem absoluteError_pos : 0 < absoluteError := by
  unfold absoluteError
  positivity

/-! ### Powers -/

theorem zpow_eq_div (b : ℚ) (e : ℤ) : b ^ e = b ^ e.toNat / b ^ (-e).toNat := by
  obtain ⟨n, rfl | rfl⟩ := e.eq_nat_or_neg
  · simp
  · simp

theorem lt_of_two_zpow_lt {a b : ℤ} (h : (2 : ℚ) ^ a < 2 ^ b) : a < b :=
  (zpow_lt_zpow_iff_right₀ one_lt_two).1 h

theorem value_eq_div (x : Dyadic) : x.value = x.num / x.den := by
  rw [value, zpow_eq_div, num, den]
  push_cast [Nat.pow_eq]
  ring

theorem den_pos (x : Dyadic) : 0 < x.den :=
  Nat.pow_pos Nat.zero_lt_two

@[simp]
theorem value_zero : zero.value = 0 := by
  rw [value, zero, Nat.cast_zero, zero_mul]

/-! ### The nearest integer -/

/-- A tie or not, the integer is at most half the denominator away. -/
theorem nearestEven_bounds (num : ℕ) {den : ℕ} (hden : 0 < den) :
    2 * (den * nearestEven num den) ≤ 2 * num + den ∧
      2 * num ≤ 2 * (den * nearestEven num den) + den := by
  have hsplit := Nat.div_add_mod num den
  have hrest := Nat.mod_lt num hden
  have hnext : den * (num / den + 1) = den * (num / den) + den := Nat.mul_succ _ _
  simp only [nearestEven]
  split
  · omega
  · split
    · omega
    · -- A tie is half the denominator away on both sides.
      rcases Nat.mod_two_eq_zero_or_one (num / den) with heven | hodd
      · rw [heven, Nat.add_zero]
        omega
      · rw [hodd]
        omega

/-- An integer is at most one half away from a quotient, if it is so in units of the denominator. -/
theorem abs_sub_div_le {num den m : ℕ} (hden : 0 < den) (hlow : 2 * (den * m) ≤ 2 * num + den)
    (hhigh : 2 * num ≤ 2 * (den * m) + den) : |(m : ℚ) - num / den| ≤ 1 / 2 := by
  have hden' : (0 : ℚ) < den := by exact_mod_cast hden
  have hlow' : 2 * ((den : ℚ) * m) ≤ 2 * num + den := by exact_mod_cast hlow
  have hhigh' : 2 * (num : ℚ) ≤ 2 * (den * m) + den := by exact_mod_cast hhigh
  have hscaled : (m : ℚ) - num / den = (den * m - num) / den := by
    field_simp
  rw [hscaled, abs_le, div_le_iff₀ hden', le_div_iff₀ hden']
  constructor <;> linarith

theorem abs_nearestEven_sub_le (num : ℕ) {den : ℕ} (hden : 0 < den) :
    |(nearestEven num den : ℚ) - num / den| ≤ 1 / 2 := by
  obtain ⟨hlow, hhigh⟩ := nearestEven_bounds num hden
  exact abs_sub_div_le hden hlow hhigh

/-- Natural numbers that are less than one apart are the same. -/
theorem eq_of_abs_sub_lt_one {m n : ℕ} (h : |(m : ℚ) - n| < 1) : m = n := by
  have hint : |(m : ℤ) - n| < 1 := by exact_mod_cast h
  exact_mod_cast sub_eq_zero.1 (Int.abs_lt_one_iff.1 hint)

/-- An integer is nearest to itself. -/
theorem nearestEven_of_eq {num den m : ℕ} (hden : 0 < den) (h : (num : ℚ) / den = m) :
    nearestEven num den = m := by
  have hclose := abs_nearestEven_sub_le num hden
  rw [h] at hclose
  exact eq_of_abs_sub_lt_one (lt_of_le_of_lt hclose (by norm_num))

theorem abs_toNearestNat_sub_le (x : Dyadic) : |(x.toNearestNat : ℚ) - x.value| ≤ 1 / 2 := by
  have hden := x.den_pos
  have hrest := Nat.mod_lt (2 * x.num + x.den) (show 0 < 2 * x.den by omega)
  have hsplit := Nat.div_add_mod (2 * x.num + x.den) (2 * x.den)
  rw [Nat.mul_assoc] at hsplit
  rw [value_eq_div, toNearestNat]
  exact abs_sub_div_le hden (by omega) (by omega)

theorem toNearestNat_of_value {x : Dyadic} {n : ℕ} (h : x.value = n) : x.toNearestNat = n := by
  have hclose := abs_toNearestNat_sub_le x
  rw [h] at hclose
  exact eq_of_abs_sub_lt_one (lt_of_le_of_lt hclose (by norm_num))

/-! ### The size of a quotient -/

section FloorLog

variable {num den : ℕ}

theorem floorLog_test (k : ℤ) (hden : 0 < den) :
    den * Nat.pow 2 k.toNat ≤ num * Nat.pow 2 (-k).toNat ↔ (2 : ℚ) ^ k ≤ num / den := by
  have hden' : (0 : ℚ) < den := by exact_mod_cast hden
  rw [zpow_eq_div, div_le_div_iff₀ (by positivity) hden', Nat.pow_eq, Nat.pow_eq, mul_comm den]
  exact_mod_cast Iff.rfl

theorem two_zpow_log2_le {n : ℕ} (h : n ≠ 0) : (2 : ℚ) ^ (n.log2 : ℤ) ≤ n := by
  rw [zpow_natCast]
  exact_mod_cast Nat.log2_self_le h

theorem lt_two_zpow_log2 {n : ℕ} : (n : ℚ) < 2 ^ ((n.log2 : ℤ) + 1) := by
  have hlt : n < 2 ^ (n.log2 + 1) := Nat.lt_log2_self
  exact_mod_cast hlt

theorem two_zpow_floorLog_le (hnum : num ≠ 0) (hden : 0 < den) :
    (2 : ℚ) ^ floorLog num den ≤ num / den := by
  have hden' : (0 : ℚ) < den := by exact_mod_cast hden
  simp only [floorLog]
  split
  · rename_i htest
    exact (floorLog_test _ hden).1 htest
  · rw [le_div_iff₀ hden']
    calc (2 : ℚ) ^ ((num.log2 : ℤ) - den.log2 - 1) * den
        ≤ 2 ^ ((num.log2 : ℤ) - den.log2 - 1) * 2 ^ ((den.log2 : ℤ) + 1) :=
          mul_le_mul_of_nonneg_left lt_two_zpow_log2.le (by positivity)
      _ = 2 ^ (num.log2 : ℤ) := by
          rw [← zpow_add₀ two_ne_zero]
          ring_nf
      _ ≤ num := two_zpow_log2_le hnum

theorem lt_two_zpow_floorLog (hden : 0 < den) :
    (num : ℚ) / den < 2 ^ (floorLog num den + 1) := by
  have hden' : (0 : ℚ) < den := by exact_mod_cast hden
  simp only [floorLog]
  split
  · rw [div_lt_iff₀ hden']
    calc (num : ℚ) < 2 ^ ((num.log2 : ℤ) + 1) := lt_two_zpow_log2
      _ = 2 ^ ((num.log2 : ℤ) - den.log2 + 1) * 2 ^ (den.log2 : ℤ) := by
          rw [← zpow_add₀ two_ne_zero]
          ring_nf
      _ ≤ 2 ^ ((num.log2 : ℤ) - den.log2 + 1) * den :=
          mul_le_mul_of_nonneg_left (two_zpow_log2_le hden.ne') (by positivity)
  · rename_i htest
    rw [sub_add_cancel]
    exact not_le.1 fun hle => htest ((floorLog_test _ hden).2 hle)

end FloorLog

/-! ### Rounding -/

section Round

variable {num den : ℕ}

/-- The power of two that a quotient is rounded to a multiple of. -/
def lastPlace (num den : ℕ) : ℤ := max (floorLog num den - 52) leastExponent

/-- The multiple of that power that is nearest. -/
def nearestMantissa (num den : ℕ) : ℕ :=
  nearestEven (num * Nat.pow 2 (-lastPlace num den).toNat) (den * Nat.pow 2 (lastPlace num den).toNat)

/-- A mantissa that has reached the next power of two moves on with the exponent. -/
theorem round_eq_or (hnum : num ≠ 0) :
    nearestMantissa num den ≠ 2 ^ 53 ∧
        round num den = ⟨nearestMantissa num den, lastPlace num den⟩ ∨
      nearestMantissa num den = 2 ^ 53 ∧ round num den = ⟨2 ^ 52, lastPlace num den + 1⟩ := by
  have hround : round num den =
      if nearestMantissa num den = Nat.pow 2 precision then ⟨Nat.pow 2 52, lastPlace num den + 1⟩
      else ⟨nearestMantissa num den, lastPlace num den⟩ := by
    rw [round, if_neg hnum]
    rfl
  rw [hround]
  split
  · rename_i hcarry
    exact .inr ⟨hcarry, rfl⟩
  · rename_i hcarry
    exact .inl ⟨hcarry, rfl⟩

theorem value_round_eq (hnum : num ≠ 0) :
    (round num den).value = nearestMantissa num den * (2 : ℚ) ^ lastPlace num den := by
  rcases round_eq_or hnum with ⟨-, hround⟩ | ⟨hcarry, hround⟩
  · rw [hround, value]
  · rw [hround, hcarry, value, zpow_add₀ two_ne_zero]
    push_cast
    ring

theorem exponent_round (hnum : num ≠ 0) :
    lastPlace num den ≤ (round num den).exponent ∧
      (round num den).exponent ≤ lastPlace num den + 1 := by
  rcases round_eq_or hnum with ⟨-, hround⟩ | ⟨-, hround⟩
  · rw [hround]
    exact ⟨le_refl _, Int.le_add_one (le_refl _)⟩
  · rw [hround]
    exact ⟨Int.le_add_one (le_refl _), le_refl _⟩

theorem scaled_quotient (num den : ℕ) (e : ℤ) :
    ((num * Nat.pow 2 (-e).toNat : ℕ) : ℚ) / (den * Nat.pow 2 e.toNat : ℕ) =
      num / den / (2 : ℚ) ^ e := by
  rw [zpow_eq_div, Nat.pow_eq, Nat.pow_eq]
  push_cast
  rw [div_div_div_eq, mul_comm (den : ℚ) (2 ^ (e.toNat)), mul_comm (2 ^ e.toNat : ℚ)]

/-- Rounding is off by half a unit in the last place at most. -/
theorem abs_value_round_sub_le_lastPlace (hnum : num ≠ 0) (hden : 0 < den) :
    |(round num den).value - num / den| ≤ 1 / 2 * (2 : ℚ) ^ lastPlace num den := by
  have hpow : (0 : ℚ) < 2 ^ lastPlace num den := by positivity
  have hclose := abs_nearestEven_sub_le (num * Nat.pow 2 (-lastPlace num den).toNat)
    (show 0 < den * Nat.pow 2 (lastPlace num den).toNat from
      Nat.mul_pos hden (Nat.pow_pos Nat.zero_lt_two))
  rw [scaled_quotient] at hclose
  have hsplit : (round num den).value - num / den =
      (nearestMantissa num den - num / den / 2 ^ lastPlace num den) * 2 ^ lastPlace num den := by
    rw [value_round_eq hnum, sub_mul, div_mul_cancel₀ _ hpow.ne']
  rw [hsplit, abs_mul, abs_of_pos hpow]
  exact mul_le_mul_of_nonneg_right hclose hpow.le

/-- What rounding changes is a small part of the quotient, but for the smallest quotients. -/
theorem abs_value_round_sub_le (num : ℕ) (hden : 0 < den) :
    |(round num den).value - num / den| ≤ relativeError * (num / den) + absoluteError := by
  have hrelative : 0 ≤ relativeError * ((num : ℚ) / den) :=
    mul_nonneg relativeError_pos.le (by positivity)
  by_cases hnum : num = 0
  · subst hnum
    simpa [round] using absoluteError_pos.le
  · refine (abs_value_round_sub_le_lastPlace hnum hden).trans ?_
    rcases max_cases (floorLog num den - 52) leastExponent with ⟨hplace, -⟩ | ⟨hplace, -⟩
    · have hfloor := two_zpow_floorLog_le hnum hden
      calc 1 / 2 * (2 : ℚ) ^ lastPlace num den
          = relativeError * 2 ^ floorLog num den := by
            rw [lastPlace, hplace, relativeError, sub_eq_add_neg, zpow_add₀ two_ne_zero]
            norm_num
            ring
        _ ≤ relativeError * (num / den) :=
            mul_le_mul_of_nonneg_left hfloor relativeError_pos.le
        _ ≤ relativeError * (num / den) + absoluteError :=
            le_add_of_nonneg_right absoluteError_pos.le
    · calc 1 / 2 * (2 : ℚ) ^ lastPlace num den = absoluteError := by
            rw [lastPlace, hplace, absoluteError, leastExponent,
              show (-1075 : ℤ) = -1 + -1074 by norm_num, zpow_add₀ two_ne_zero]
            norm_num
        _ ≤ relativeError * (num / den) + absoluteError := le_add_of_nonneg_left hrelative

/-- A quotient with a mantissa of 53 bits stays as it is. -/
theorem value_round_of_eq {m : ℕ} {e : ℤ} (hden : 0 < den) (hm : m < 2 ^ 53)
    (he : leastExponent ≤ e) (h : (num : ℚ) / den = m * 2 ^ e) :
    (round num den).value = num / den := by
  by_cases hnum : num = 0
  · subst hnum
    simp [round]
  · -- The last place is not beyond the exponent, so that the quotient is a multiple of it.
    have hplace : lastPlace num den ≤ e := by
      have hlt : (2 : ℚ) ^ floorLog num den < 2 ^ (53 + e) := by
        calc (2 : ℚ) ^ floorLog num den ≤ m * 2 ^ e := h ▸ two_zpow_floorLog_le hnum hden
          _ < 2 ^ (53 : ℤ) * 2 ^ e :=
              mul_lt_mul_of_pos_right (by exact_mod_cast hm) (by positivity)
          _ = 2 ^ (53 + e) := (zpow_add₀ two_ne_zero _ _).symm
      have := lt_of_two_zpow_lt hlt
      exact max_le (by omega) he
    obtain ⟨k, hk⟩ := Int.le.dest hplace
    have hmultiple : (num : ℚ) / den / 2 ^ lastPlace num den = (m * 2 ^ k : ℕ) := by
      rw [h, ← hk, zpow_add₀ two_ne_zero, zpow_natCast]
      push_cast
      field_simp
    have hnearest : nearestMantissa num den = m * 2 ^ k := by
      refine nearestEven_of_eq (Nat.mul_pos hden (Nat.pow_pos Nat.zero_lt_two)) ?_
      rw [scaled_quotient, hmultiple]
    have hpow : (0 : ℚ) < 2 ^ lastPlace num den := by positivity
    rw [value_round_eq hnum, hnearest, ← hmultiple, div_mul_cancel₀ _ hpow.ne']

/-- Quotients below the greatest power of two are held. -/
theorem fits_round (hden : 0 < den) (h : (num : ℚ) / den < 2 ^ (1023 : ℤ)) :
    (round num den).fits = true := by
  by_cases hnum : num = 0
  · subst hnum
    rfl
  · have hlt := (two_zpow_floorLog_le hnum hden).trans_lt h
    have hfloor := lt_of_two_zpow_lt hlt
    have hplace : lastPlace num den ≤ 970 := max_le (by omega) (by decide)
    have hexponent : (round num den).exponent ≤ lastPlace num den + 1 := (exponent_round hnum).2
    rw [fits, decide_eq_true_eq, greatestExponent]
    omega

/-- The exponent of a rounded quotient is as large as its size asks for. -/
theorem le_exponent_round {k : ℤ} (hden : 0 < den) (h : (2 : ℚ) ^ k ≤ num / den) :
    k - 52 ≤ (round num den).exponent := by
  have hnum : num ≠ 0 := by
    rintro rfl
    rw [Nat.cast_zero, zero_div] at h
    exact absurd h (not_le.2 (by positivity))
  have hlt := h.trans_lt (lt_two_zpow_floorLog hden)
  have hfloor := lt_of_two_zpow_lt hlt
  have hplace : floorLog num den - 52 ≤ lastPlace num den := le_max_left _ _
  have hexponent : lastPlace num den ≤ (round num den).exponent := (exponent_round hnum).1
  omega

end Round

/-- A number whose exponent is not negative is a multiple of that power of two. -/
theorem pow_dvd_toNearestNat {x : Dyadic} {k : ℕ} (h : (k : ℤ) ≤ x.exponent) :
    2 ^ k ∣ x.toNearestNat := by
  obtain ⟨j, hj⟩ := Int.le.dest h
  have hvalue : x.value = (x.mantissa * 2 ^ j * 2 ^ k : ℕ) := by
    rw [value, ← hj, zpow_add₀ two_ne_zero, zpow_natCast, zpow_natCast]
    push_cast
    ring
  rw [toNearestNat_of_value hvalue]
  exact Nat.dvd_mul_left _ _

end Dyadic
end ResourcePaths
