import ResourcePaths.Number.Double
import ResourcePaths.Proofs.Number.Rounding

/-!
# Numbers that have been rounded again and again

Rounding, scaling and adding keep a computed number close to the exact one.  The relative error is
counted by the roundings that a number went through.  The absolute one, which only the smallest
numbers have, is counted in doublings, far below anything that matters at the end.
-/

namespace ResourcePaths

open ResourcePaths.Dyadic (relativeError absoluteError relativeError_pos absoluteError_pos)

/-! ### Closeness -/

/-- A number computed in place of an exact one, which is not negative, with so many roundings, and
with so many doublings of the least error. -/
structure Near (roundings doublings : ℕ) (exact computed : ℚ) : Prop where
  nonneg : 0 ≤ exact
  close : |computed - exact| ≤
    ((1 + relativeError) ^ roundings - 1) * exact + 2 ^ doublings * absoluteError

theorem pow_mul_absoluteError (j : ℕ) : 2 ^ j * absoluteError = 2 ^ ((j : ℤ) - 1075) := by
  rw [absoluteError, ← zpow_natCast, ← zpow_add₀ two_ne_zero, sub_eq_add_neg]

theorem pow_mul_absoluteError_le_one {j : ℕ} (h : j ≤ 1075) : 2 ^ j * absoluteError ≤ 1 := by
  rw [pow_mul_absoluteError]
  exact zpow_le_one_of_nonpos₀ one_le_two (by omega)

namespace Near

variable {s j : ℕ} {q q' r r' : ℚ}

theorem refl (h : 0 ≤ q) : Near 0 0 q q := by
  refine ⟨h, ?_⟩
  rw [sub_self, abs_zero, pow_zero, sub_self, zero_mul, zero_add, pow_zero, one_mul]
  exact absoluteError_pos.le

theorem mono {s' j' : ℕ} (h : Near s j q r) (hs : s ≤ s') (hj : j ≤ j') : Near s' j' q r := by
  have hone : (1 : ℚ) ≤ 1 + relativeError := le_add_of_nonneg_right relativeError_pos.le
  refine ⟨h.nonneg, h.close.trans (add_le_add ?_ ?_)⟩
  · exact mul_le_mul_of_nonneg_right (sub_le_sub_right (pow_le_pow_right₀ hone hs) 1) h.nonneg
  · exact mul_le_mul_of_nonneg_right (pow_le_pow_right₀ one_le_two hj) absoluteError_pos.le

theorem mul {factor b : ℕ} (h : Near s j q r) (hfactor : factor ≤ 2 ^ b) :
    Near s (j + b) (q * factor) (r * factor) := by
  have hnonneg : (0 : ℚ) ≤ factor := Nat.cast_nonneg factor
  have hfactor' : (factor : ℚ) ≤ 2 ^ b := by exact_mod_cast hfactor
  refine ⟨mul_nonneg h.nonneg hnonneg, ?_⟩
  calc |r * factor - q * factor| = |r - q| * factor := by
        rw [← sub_mul, abs_mul, abs_of_nonneg hnonneg]
    _ ≤ (((1 + relativeError) ^ s - 1) * q + 2 ^ j * absoluteError) * factor :=
        mul_le_mul_of_nonneg_right h.close hnonneg
    _ = ((1 + relativeError) ^ s - 1) * (q * factor) + 2 ^ j * absoluteError * factor := by ring
    _ ≤ ((1 + relativeError) ^ s - 1) * (q * factor) + 2 ^ j * absoluteError * 2 ^ b := by
        have hpos := absoluteError_pos
        gcongr
    _ = ((1 + relativeError) ^ s - 1) * (q * factor) + 2 ^ (j + b) * absoluteError := by ring

theorem add (h : Near s j q r) (h' : Near s j q' r') : Near s (j + 1) (q + q') (r + r') := by
  refine ⟨add_nonneg h.nonneg h'.nonneg, ?_⟩
  calc |r + r' - (q + q')| = |(r - q) + (r' - q')| := by rw [add_sub_add_comm]
    _ ≤ |r - q| + |r' - q'| := abs_add_le _ _
    _ ≤ _ := add_le_add h.close h'.close
    _ = ((1 + relativeError) ^ s - 1) * (q + q') + 2 ^ (j + 1) * absoluteError := by ring

/-- What a rounding adds to an error: a part of the number that is rounded, and a constant. -/
theorem abs_sub_le_of_rounded {u c e p x : ℚ} (hu : 0 ≤ u) (hu' : u ≤ 1) (hc : 0 ≤ c) (hp : 1 ≤ p)
    (hclose : |x - q| ≤ e * q + p * c) (hround : |r - x| ≤ u * x + c) :
    |r - q| ≤ ((1 + e) * (1 + u) - 1) * q + p * 4 * c := by
  have hx : x ≤ q + (e * q + p * c) := by
    have := (abs_le.1 hclose).2
    linarith
  calc |r - q| ≤ |r - x| + |x - q| := abs_sub_le _ _ _
    _ ≤ (u * x + c) + (e * q + p * c) := add_le_add hround hclose
    _ ≤ (u * (q + (e * q + p * c)) + c) + (e * q + p * c) := by gcongr
    _ = ((1 + e) * (1 + u) - 1) * q + (u * p + 1 + p) * c := by ring
    _ ≤ ((1 + e) * (1 + u) - 1) * q + (1 * p + p + p) * c := by gcongr
    _ ≤ ((1 + e) * (1 + u) - 1) * q + p * 4 * c := by
        have : (1 * p + p + p) * c ≤ p * 4 * c := mul_le_mul_of_nonneg_right (by linarith) hc
        linarith

/-- One more rounding. -/
theorem round {num den : ℕ} (hden : 0 < den) (h : Near s j q (num / den)) :
    Near (s + 1) (j + 2) q (Dyadic.round num den).value := by
  have hstep := abs_sub_le_of_rounded relativeError_pos.le (by norm_num [relativeError])
    absoluteError_pos.le (one_le_pow₀ one_le_two) h.close (Dyadic.abs_value_round_sub_le num hden)
  refine ⟨h.nonneg, hstep.trans (le_of_eq ?_)⟩
  ring

/-- After few roundings a number is at most doubled. -/
theorem le_double (h : Near s j q r) (hs : s ≤ 8) (hj : j ≤ 64) : r ≤ 2 * q + 1 := by
  have hclose := (abs_le.1 (h.mono hs hj).close).2
  have hpow : (1 + relativeError) ^ 8 - 1 ≤ 1 := by norm_num [relativeError]
  have hsmall := pow_mul_absoluteError_le_one (show 64 ≤ 1075 by decide)
  have := mul_le_mul_of_nonneg_right hpow h.nonneg
  linarith

end Near

/-! ### Operations -/

namespace Dyadic

theorem quotient_scale (x : Dyadic) (factor : ℕ) :
    ((x.num * factor : ℕ) : ℚ) / x.den = x.value * factor := by
  rw [value_eq_div]
  push_cast
  ring

theorem quotient_add (x y : Dyadic) :
    ((x.num * y.den + y.num * x.den : ℕ) : ℚ) / (x.den * y.den : ℕ) = x.value + y.value := by
  have hx : (x.den : ℚ) ≠ 0 := by exact_mod_cast x.den_pos.ne'
  have hy : (y.den : ℚ) ≠ 0 := by exact_mod_cast y.den_pos.ne'
  rw [value_eq_div, value_eq_div]
  push_cast
  field_simp

variable {s j : ℕ} {q q' : ℚ} {x y : Dyadic}

theorem near_scale {factor b : ℕ} (h : Near s j q x.value) (hfactor : factor ≤ 2 ^ b) :
    Near (s + 1) (j + b + 2) (q * factor) (x.scale factor).value := by
  refine Near.round x.den_pos ?_
  rw [quotient_scale]
  exact h.mul hfactor

theorem near_add (hx : Near s j q x.value) (hy : Near s j q' y.value) :
    Near (s + 1) (j + 3) (q + q') (x.add y).value := by
  refine Near.round (Nat.mul_pos x.den_pos y.den_pos) ?_
  rw [quotient_add]
  exact hx.add hy

theorem fits_scale {factor : ℕ} (h : x.value * factor < 2 ^ (1023 : ℤ)) :
    (x.scale factor).fits = true := by
  rw [← quotient_scale] at h
  exact fits_round x.den_pos h

theorem fits_add (h : x.value + y.value < 2 ^ (1023 : ℤ)) : (x.add y).fits = true := by
  rw [← quotient_add] at h
  exact fits_round (Nat.mul_pos x.den_pos y.den_pos) h

/-- Scaling is exact where the product has a mantissa of 53 bits. -/
theorem value_scale_of_eq {factor m k : ℕ} (hm : m < 2 ^ 53) (h : x.value * factor = m * 2 ^ k) :
    (x.scale factor).value = x.value * factor := by
  rw [scale, value_round_of_eq (e := k) x.den_pos hm, quotient_scale]
  · exact (by decide : leastExponent ≤ 0).trans (Int.natCast_nonneg k)
  · rw [quotient_scale, h, zpow_natCast]

theorem value_add_of_eq {m : ℕ} (hm : m < 2 ^ 53) (h : x.value + y.value = m) :
    (x.add y).value = x.value + y.value := by
  rw [add, value_round_of_eq (e := 0) (Nat.mul_pos x.den_pos y.den_pos) hm (by decide), quotient_add]
  rw [quotient_add, h, zpow_zero, mul_one]

end Dyadic

/-! ### Decimals -/

namespace Decimal

variable {x : Decimal}

/-- The magnitude of the number, exactly. -/
def value (x : Decimal) : ℚ := x.coefficient * (10 : ℚ) ^ x.exponent

theorem value_nonneg (x : Decimal) : 0 ≤ x.value := by
  unfold value
  positivity

theorem value_eq_div (x : Decimal) :
    x.value = ((x.coefficient * Nat.pow 10 x.exponent.toNat : ℕ) : ℚ) /
      (Nat.pow 10 (-x.exponent).toNat : ℕ) := by
  rw [value, Dyadic.zpow_eq_div]
  push_cast [Nat.pow_eq]
  ring

/-- Where the rounding is left out for its exponent, the number is as small as an error, or larger
than any double. -/
theorem magnitude_cases (x : Decimal) :
    x.magnitude = .zero ∧ x.value ≤ absoluteError ∨
      x.magnitude = .tooLarge ∧ 400 < x.exponent ∧ 10 ^ 400 ≤ x.value ∨
      x.magnitude = Dyadic.round (x.coefficient * Nat.pow 10 x.exponent.toNat)
        (Nat.pow 10 (-x.exponent).toNat) := by
  rw [magnitude]
  split
  · rename_i hzero
    refine .inl ⟨rfl, ?_⟩
    rw [value, hzero, Nat.cast_zero, zero_mul]
    exact absoluteError_pos.le
  · rename_i hzero
    split
    · rename_i hlarge
      refine .inr (.inl ⟨rfl, hlarge, ?_⟩)
      have hcoefficient : (1 : ℚ) ≤ x.coefficient := by
        exact_mod_cast Nat.one_le_iff_ne_zero.2 hzero
      calc (10 : ℚ) ^ 400 = 1 * 10 ^ (400 : ℤ) := by rw [one_mul, zpow_ofNat]
        _ ≤ x.coefficient * 10 ^ x.exponent :=
            mul_le_mul hcoefficient (zpow_le_zpow_right₀ (by norm_num) hlarge.le) (by positivity)
              (by positivity)
        _ = x.value := rfl
    · split
      · rename_i hsmall
        refine .inl ⟨rfl, ?_⟩
        obtain ⟨k, hk⟩ := Int.exists_eq_neg_ofNat (show x.exponent ≤ 0 by omega)
        have hten : (2 : ℚ) ^ (3 * k : ℤ) ≤ 10 ^ k := by
          rw [zpow_mul, zpow_natCast]
          exact pow_le_pow_left₀ (by norm_num) (by norm_num) k
        rw [value, hk, zpow_neg, zpow_natCast, ← div_eq_mul_inv, div_le_iff₀ (by positivity)]
        calc (x.coefficient : ℚ) ≤ 2 ^ ((x.coefficient.log2 : ℤ) + 1) :=
              Dyadic.lt_two_zpow_log2.le
          _ ≤ 2 ^ ((-1075 : ℤ) + 3 * k) := zpow_le_zpow_right₀ one_le_two (by omega)
          _ = absoluteError * 2 ^ (3 * k : ℤ) := zpow_add₀ two_ne_zero _ _
          _ ≤ absoluteError * 10 ^ k := mul_le_mul_of_nonneg_left hten absoluteError_pos.le
      · exact .inr (.inr rfl)

/-- Numbers without a power of ten in front of them are never too large by their exponent. -/
theorem magnitude_eq_or (h : x.exponent ≤ 0) :
    x.magnitude = .zero ∧ x.value ≤ absoluteError ∨
      x.magnitude = Dyadic.round (x.coefficient * Nat.pow 10 x.exponent.toNat)
        (Nat.pow 10 (-x.exponent).toNat) := by
  rcases x.magnitude_cases with hsmall | ⟨-, hlarge, -⟩ | hround
  · exact .inl hsmall
  · omega
  · exact .inr hround

theorem ten_pow_pos (k : ℕ) : 0 < Nat.pow 10 k := Nat.pow_pos (by decide)

theorem near_magnitude (h : x.exponent ≤ 0) : Near 1 2 x.value x.magnitude.value := by
  rcases magnitude_eq_or h with ⟨hzero, hsmall⟩ | hround
  · refine ⟨x.value_nonneg, ?_⟩
    have hrelative : 0 ≤ ((1 + relativeError) ^ 1 - 1) * x.value :=
      mul_nonneg (by simpa using relativeError_pos.le) x.value_nonneg
    have := absoluteError_pos
    rw [hzero, Dyadic.value_zero, zero_sub, abs_neg, abs_of_nonneg x.value_nonneg]
    linarith
  · rw [hround]
    refine Near.round (ten_pow_pos _) ?_
    rw [← value_eq_div]
    exact .refl x.value_nonneg

theorem fits_magnitude (h : x.exponent ≤ 0) (hlt : x.value < 2 ^ (1023 : ℤ)) :
    x.magnitude.fits = true := by
  rcases magnitude_eq_or h with ⟨hzero, -⟩ | hround
  · rw [hzero]
    rfl
  · rw [hround]
    refine Dyadic.fits_round (ten_pow_pos _) ?_
    rwa [← value_eq_div]

/-- An integer of 53 bits is kept. -/
theorem value_magnitude_of_eq {m : ℕ} (h : x.exponent ≤ 0) (hm : m < 2 ^ 53) (hvalue : x.value = m) :
    x.magnitude.value = m := by
  rcases magnitude_eq_or h with ⟨hzero, hsmall⟩ | hround
  · have hlt : (m : ℚ) < 1 := by
      rw [← hvalue]
      exact hsmall.trans_lt (zpow_lt_one_of_neg₀ one_lt_two (by decide))
    have hzero' : m = 0 := by
      have hnat : m < 1 := by exact_mod_cast hlt
      omega
    rw [hzero, Dyadic.value_zero, hzero', Nat.cast_zero]
  · rw [hround, Dyadic.value_round_of_eq (e := 0) (ten_pow_pos _) hm (by decide), ← value_eq_div,
      hvalue]
    rw [← value_eq_div, hvalue, zpow_zero, mul_one]

end Decimal
end ResourcePaths
