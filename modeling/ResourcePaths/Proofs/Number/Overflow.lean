import ResourcePaths.Proofs.Number.Closeness

/-!
# Numbers that are too large

The greatest double is `(2 ^ 53 - 1) * 2 ^ 971`, and the next number with a mantissa of 53 bits would
be `2 ^ 1024`.  Half way between the two, at `2 ^ 1024 - 2 ^ 970`, a tie goes to the even mantissa,
which is the one that is too large: a decimal is kept as a finite double below this bound, and from
there on as the infinity of its sign.
-/

namespace ResourcePaths
namespace Dyadic

/-- The least quotient that is rounded to a number that is too large. -/
def overflowBound : ℚ := (2 : ℚ) ^ (1024 : ℤ) - (2 : ℚ) ^ (970 : ℤ)

/-- The bound in units of the last place of the greatest numbers. -/
theorem overflowBound_eq : overflowBound = (2 ^ 53 - 1 / 2) * (2 : ℚ) ^ greatestExponent := by
  have hpower : (2 : ℚ) ^ (1024 : ℤ) = 2 ^ (53 : ℤ) * 2 ^ (971 : ℤ) := by
    rw [← zpow_add₀ two_ne_zero]
    rfl
  have hhalf : (2 : ℚ) ^ (970 : ℤ) = 2 ^ (-1 : ℤ) * 2 ^ (971 : ℤ) := by
    rw [← zpow_add₀ two_ne_zero]
    rfl
  rw [overflowBound, hpower, hhalf, ← sub_mul, greatestExponent]
  norm_num

theorem two_zpow_lt_overflowBound : (2 : ℚ) ^ (1023 : ℤ) < overflowBound := by
  have hpower : (2 : ℚ) ^ (1023 : ℤ) = 2 ^ (52 : ℤ) * 2 ^ greatestExponent := by
    rw [← zpow_add₀ two_ne_zero]
    rfl
  rw [overflowBound_eq, hpower]
  exact mul_lt_mul_of_pos_right (by norm_num) (by positivity)

theorem overflowBound_lt_two_zpow : overflowBound < (2 : ℚ) ^ (1024 : ℤ) :=
  sub_lt_self _ (by positivity)

/-! ### Mantissas -/

section Mantissa

variable {num den k : ℕ}

/-- The nearest integer of a quotient below an integer is not beyond that integer. -/
theorem nearestEven_le (hden : 0 < den) (h : num < k * den) : nearestEven num den ≤ k := by
  have hquotient : num / den < k := (Nat.div_lt_iff_lt_mul hden).2 h
  have hparity : num / den % 2 < 2 := Nat.mod_lt _ (by decide)
  simp only [nearestEven]
  split
  · omega
  · split
    · omega
    · omega

/-- An even integer is reached from one half below it on, since the tie goes to it. -/
theorem nearestEven_eq_iff (hden : 0 < den) (h : num < k * den) (heven : k % 2 = 0) :
    nearestEven num den = k ↔ (k : ℚ) - 1 / 2 ≤ num / den := by
  have hden' : (0 : ℚ) < den := by exact_mod_cast hden
  have hcast : (k : ℚ) - 1 / 2 ≤ num / den ↔ 2 * (k * den) ≤ 2 * num + den := by
    have hdouble : ((k : ℚ) - 1 / 2) * den ≤ num ↔ 2 * ((k : ℚ) * den) ≤ 2 * num + den := by
      constructor <;> intro hle <;> linarith
    rw [le_div_iff₀ hden', hdouble]
    exact_mod_cast Iff.rfl
  have hsplit := Nat.div_add_mod num den
  have hrest := Nat.mod_lt num hden
  have hquotient : num / den < k := (Nat.div_lt_iff_lt_mul hden).2 h
  rw [hcast]
  by_cases hlast : num / den + 1 = k
  · have hmul : k * den = den * (num / den) + den := by
      rw [← hlast, Nat.mul_comm, Nat.mul_succ]
    simp only [nearestEven]
    split
    · omega
    · split
      · omega
      · omega
  · -- The quotient is more than one below, and its nearest integer is below, too.
    have hmul : den * (num / den) + 2 * den ≤ k * den := by
      calc den * (num / den) + 2 * den = (num / den + 2) * den := by ring
        _ ≤ k * den := Nat.mul_le_mul_right den (by omega)
    have hnext : nearestEven num den ≤ num / den + 1 :=
      nearestEven_le hden (by rw [Nat.succ_mul, Nat.mul_comm]; omega)
    omega

end Mantissa

section Round

variable {num den : ℕ}

/-- In units of its last place, a quotient is below the next power of two. -/
theorem scaled_lt (hden : 0 < den) :
    num * Nat.pow 2 (-lastPlace num den).toNat <
      2 ^ 53 * (den * Nat.pow 2 (lastPlace num den).toNat) := by
  have hscale : 0 < den * Nat.pow 2 (lastPlace num den).toNat :=
    Nat.mul_pos hden (Nat.pow_pos Nat.zero_lt_two)
  have hquotient : ((num * Nat.pow 2 (-lastPlace num den).toNat : ℕ) : ℚ) /
      (den * Nat.pow 2 (lastPlace num den).toNat : ℕ) < 2 ^ (53 : ℤ) := by
    rw [scaled_quotient, div_lt_iff₀ (by positivity), ← zpow_add₀ two_ne_zero]
    have hplace : floorLog num den - 52 ≤ lastPlace num den := le_max_left _ _
    exact (lt_two_zpow_floorLog hden).trans_le (zpow_le_zpow_right₀ one_le_two (by omega))
  rw [div_lt_iff₀ (by exact_mod_cast hscale)] at hquotient
  exact_mod_cast hquotient

theorem mantissa_round_lt (num : ℕ) (hden : 0 < den) : (round num den).mantissa < 2 ^ 53 := by
  by_cases hnum : num = 0
  · rw [round, if_pos hnum]
    decide
  · have hle : nearestMantissa num den ≤ 2 ^ 53 :=
      nearestEven_le (Nat.mul_pos hden (Nat.pow_pos Nat.zero_lt_two)) (scaled_lt hden)
    rcases round_eq_or hnum with ⟨hcarry, hround⟩ | ⟨-, hround⟩
    · rw [hround]
      exact lt_of_le_of_ne hle hcarry
    · rw [hround]
      exact Nat.pow_lt_pow_right (by decide) (by decide)

/-- A quotient in the last place of the greatest numbers is held unless its mantissa is carried. -/
theorem fits_round_of_lastPlace (hnum : num ≠ 0) (hden : 0 < den)
    (hplace : lastPlace num den = greatestExponent) :
    (round num den).fits = true ↔ (num : ℚ) / den < overflowBound := by
  have hscale : 0 < den * Nat.pow 2 (lastPlace num den).toNat :=
    Nat.mul_pos hden (Nat.pow_pos Nat.zero_lt_two)
  have hpow : (0 : ℚ) < 2 ^ lastPlace num den := by positivity
  -- The bound is half a unit in the last place below the power of two that carries.
  have hcarry : nearestMantissa num den = 2 ^ 53 ↔ overflowBound ≤ (num : ℚ) / den := by
    rw [nearestMantissa, nearestEven_eq_iff hscale (scaled_lt hden) (by decide), scaled_quotient,
      le_div_iff₀ hpow, overflowBound_eq, hplace]
    norm_num
  rcases round_eq_or hnum with ⟨hmantissa, hround⟩ | ⟨hmantissa, hround⟩
  · refine iff_of_true ?_ (not_le.1 fun hle => hmantissa (hcarry.2 hle))
    rw [hround, hplace, fits, decide_eq_true_eq]
  · refine iff_of_false ?_ (not_lt.2 (hcarry.1 hmantissa))
    rw [hround, hplace]
    decide

/-- A quotient is held exactly if it is below the bound. -/
theorem fits_round_iff (hden : 0 < den) :
    (round num den).fits = true ↔ (num : ℚ) / den < overflowBound := by
  -- Only between the last two powers of two does the rounding decide.
  rcases lt_or_ge ((num : ℚ) / den) (2 ^ (1023 : ℤ)) with hsmall | hlarge
  · exact iff_of_true (fits_round hden hsmall) (hsmall.trans two_zpow_lt_overflowBound)
  rcases lt_or_ge ((num : ℚ) / den) (2 ^ (1024 : ℤ)) with hlast | hbeyond
  · have hnum : num ≠ 0 := by
      rintro rfl
      rw [Nat.cast_zero, zero_div] at hlarge
      exact absurd hlarge (not_le.2 (by positivity))
    have hfloor := lt_of_two_zpow_lt ((two_zpow_floorLog_le hnum hden).trans_lt hlast)
    have hfloor' := lt_of_two_zpow_lt (hlarge.trans_lt (lt_two_zpow_floorLog hden))
    refine fits_round_of_lastPlace hnum hden ?_
    rw [lastPlace, greatestExponent, leastExponent]
    omega
  · have hexponent := le_exponent_round hden hbeyond
    refine iff_of_false ?_ (not_lt.2 (overflowBound_lt_two_zpow.le.trans hbeyond))
    rw [fits, decide_eq_true_eq, greatestExponent]
    omega

end Round

end Dyadic

/-! ### Doubles -/

namespace Double

variable {negative : Bool} {x : Dyadic}

/-- The bits of the sign are apart from the others. -/
theorem magnitude_ofNat {n : ℕ} (h : n < signBit) (negative : Bool) :
    magnitude ⟨UInt64.ofNat (n + if negative then signBit else 0)⟩ = n := by
  have hsign : signBit = 9223372036854775808 := by decide
  rw [magnitude, UInt64.toNat_ofNat', hsign]
  rw [hsign] at h
  cases negative with
  | true =>
      simp only [if_true]
      omega
  | false =>
      simp only [Bool.false_eq_true, if_false]
      omega

/-- A number with a mantissa of 53 bits is finite exactly if it is held. -/
theorem isFinite_ofDyadic (hmantissa : x.mantissa < 2 ^ 53) :
    (ofDyadic negative x).isFinite = x.fits := by
  have hinfinity : infinityBits = 9218868437227405312 := by decide
  have hsign : signBit = 9223372036854775808 := by decide
  rw [ofDyadic, isFinite]
  -- The greatest exponent, counted from the least one, is one short of that of the infinities, and
  -- the mantissa adds its leading bit to it.
  by_cases hfits : x.fits = true
  · have hexponent : x.exponent ≤ 971 := of_decide_eq_true hfits
    have hbits : (x.exponent - Dyadic.leastExponent).toNat * Nat.pow 2 52 + x.mantissa <
        infinityBits := by
      have hplace : (x.exponent - Dyadic.leastExponent).toNat ≤ 2045 := by
        rw [Dyadic.leastExponent]
        omega
      have hpow : Nat.pow 2 52 = 4503599627370496 := by decide
      rw [hinfinity, hpow]
      omega
    rw [if_pos hfits, magnitude_ofNat (by omega), hfits]
    exact decide_eq_true hbits
  · rw [if_neg hfits, magnitude_ofNat (by omega), Bool.eq_false_of_not_eq_true hfits]
    exact decide_eq_false (lt_irrefl _)

theorem ofDyadic_of_not_fits (h : x.fits = false) :
    ofDyadic negative x = if negative then negativeInfinity else infinity := by
  rw [ofDyadic, h, if_neg Bool.false_ne_true]
  cases negative with
  | true => rw [if_pos rfl, if_pos rfl, Nat.add_comm, negativeInfinity]
  | false => rw [if_neg Bool.false_ne_true, if_neg Bool.false_ne_true, Nat.add_zero, infinity]

end Double

namespace Decimal

theorem fits_magnitude_iff (x : Decimal) :
    x.magnitude.fits = true ↔ x.value < Dyadic.overflowBound := by
  -- Where the exponent alone decides, it decides as the rounding would.
  rcases x.magnitude_cases with ⟨hzero, hsmall⟩ | ⟨hlarge, -, hbeyond⟩ | hround
  · have hone : Dyadic.absoluteError < 2 ^ (1023 : ℤ) := by
      rw [Dyadic.absoluteError]
      exact zpow_lt_zpow_right₀ one_lt_two (by decide)
    refine iff_of_true ?_ ((hsmall.trans_lt hone).trans Dyadic.two_zpow_lt_overflowBound)
    rw [hzero]
    decide
  · have hpower : (2 : ℚ) ^ (1024 : ℤ) ≤ 10 ^ 400 := by
      calc (2 : ℚ) ^ (1024 : ℤ) ≤ 2 ^ ((3 * 400 : ℕ) : ℤ) :=
            zpow_le_zpow_right₀ one_le_two (by decide)
        _ = (2 ^ 3) ^ 400 := by rw [zpow_natCast, pow_mul]
        _ ≤ 10 ^ 400 := pow_le_pow_left₀ (by norm_num) (by norm_num) 400
    refine iff_of_false ?_ (not_lt.2 (Dyadic.overflowBound_lt_two_zpow.le.trans
      (hpower.trans hbeyond)))
    rw [hlarge]
    decide
  · rw [hround, Dyadic.fits_round_iff (ten_pow_pos _), ← value_eq_div]

theorem mantissa_magnitude_lt (x : Decimal) : x.magnitude.mantissa < 2 ^ 53 := by
  rcases x.magnitude_cases with ⟨hzero, -⟩ | ⟨hlarge, -⟩ | hround
  · rw [hzero]
    decide
  · rw [hlarge]
    decide
  · rw [hround]
    exact Dyadic.mantissa_round_lt _ (ten_pow_pos _)

/-- The double of a decimal is finite exactly if the decimal is below the bound. -/
theorem isFinite_toDouble_iff (x : Decimal) :
    x.toDouble.isFinite = true ↔ x.value < Dyadic.overflowBound := by
  rw [toDouble, Double.isFinite_ofDyadic x.mantissa_magnitude_lt, fits_magnitude_iff]

/-- The double of any other decimal is the infinity of its sign. -/
theorem toDouble_of_overflow {x : Decimal} (h : Dyadic.overflowBound ≤ x.value) :
    x.toDouble = if x.negative then Double.negativeInfinity else Double.infinity := by
  refine Double.ofDyadic_of_not_fits (Bool.eq_false_of_not_eq_true fun hfits => ?_)
  exact absurd ((fits_magnitude_iff x).1 hfits) (not_lt.2 h)

end Decimal
end ResourcePaths
