import ResourcePaths.Proofs.Calendar.DurationForms

/-!
# Durations as they are counted

The reader turns each number of a duration into a double, and it scales and adds doubles, so that it
rounds seven times before the nanoseconds are counted.  Below `2 ^ 49` of them, which is six days and
a half, nothing of that can be seen; beyond, the length that is read may be off by a small part of
itself.
-/

namespace ResourcePaths

open ResourcePaths.Dyadic (relativeError absoluteError)

namespace Duration

/-! ### Adding up -/

section Adding

/-- The seconds of a part, exactly. -/
def secondsOf (part : Option Decimal × ℕ) : ℚ :=
  part.1.elim 0 Decimal.value * part.2

/-- A part with digits behind the point only, and with a unit of a day at most. -/
structure IsPart (part : Option Decimal × ℕ) : Prop where
  exponent : ∀ value ∈ part.1, value.exponent ≤ 0
  unit_pos : 1 ≤ part.2
  unit_le : part.2 ≤ 2 ^ 17

variable {s j : ℕ} {q : ℚ} {total sum : Dyadic} {part : Option Decimal × ℕ}

theorem secondsOf_nonneg (part : Option Decimal × ℕ) : 0 ≤ secondsOf part := by
  obtain ⟨value?, unit⟩ := part
  cases value? with
  | none => simp [secondsOf]
  | some value => exact mul_nonneg value.value_nonneg (Nat.cast_nonneg _)

theorem sum_secondsOf_nonneg (parts : List (Option Decimal × ℕ)) :
    0 ≤ (parts.map secondsOf).sum := by
  refine List.sum_nonneg fun seconds hseconds => ?_
  obtain ⟨part, -, rfl⟩ := List.mem_map.1 hseconds
  exact secondsOf_nonneg part

theorem near_scaled {value : Decimal} {unit : ℕ} (hpart : IsPart (some value, unit)) :
    Near 2 21 (secondsOf (some value, unit)) (value.magnitude.scale unit).value :=
  Dyadic.near_scale (Decimal.near_magnitude (hpart.exponent value rfl)) hpart.unit_le

/-- A sum that is not given up is close, however large it has become. -/
theorem near_of_accumulate (hpart : IsPart part) (htotal : Near s j q total.value) (hs : 2 ≤ s)
    (hj : 21 ≤ j) (h : accumulate (some total) part = some sum) :
    Near (s + 1) (j + 3) (q + secondsOf part) sum.value := by
  obtain ⟨value?, unit⟩ := part
  cases value? with
  | none =>
      obtain rfl : total = sum := Option.some.inj h
      rw [secondsOf, Option.elim_none, zero_mul, add_zero]
      exact htotal.mono (by omega) (by omega)
  | some value =>
      simp only [accumulate] at h
      split at h
      · obtain rfl := Option.some.inj h
        exact Dyadic.near_add htotal ((near_scaled hpart).mono hs hj)
      · contradiction

theorem foldl_accumulate_none (parts : List (Option Decimal × ℕ)) :
    parts.foldl accumulate none = none := by
  induction parts with
  | nil => rfl
  | cons part parts ih => exact ih

theorem near_of_foldl {parts : List (Option Decimal × ℕ)} (hparts : ∀ part ∈ parts, IsPart part)
    (htotal : Near s j q total.value) (hs : 2 ≤ s) (hj : 21 ≤ j)
    (h : parts.foldl accumulate (some total) = some sum) :
    Near (s + parts.length) (j + 3 * parts.length) (q + (parts.map secondsOf).sum) sum.value := by
  induction parts generalizing s j q total with
  | nil =>
      obtain rfl : total = sum := Option.some.inj h
      simpa using htotal
  | cons part parts ih =>
      obtain ⟨hpart, hrest⟩ := List.forall_mem_cons.1 hparts
      rw [List.foldl_cons] at h
      cases hfirst : accumulate (some total) part with
      | none =>
          rw [hfirst, foldl_accumulate_none] at h
          contradiction
      | some first =>
          rw [hfirst] at h
          have hnear := ih hrest (near_of_accumulate hpart htotal hs hj hfirst) (by omega) (by omega) h
          rw [List.map_cons, List.sum_cons, ← add_assoc, List.length_cons]
          exact hnear.mono (by omega) (by omega)

/-- One more part does not make a sum too large that is far from it. -/
theorem exists_accumulate (hpart : IsPart part) (htotal : Near s j q total.value) (hs : s ≤ 8)
    (hj : j ≤ 64) (hbound : q + secondsOf part ≤ 2 ^ 64) :
    ∃ sum, accumulate (some total) part = some sum := by
  obtain ⟨value?, unit⟩ := part
  cases value? with
  | none => exact ⟨total, rfl⟩
  | some value =>
      have hexponent : value.exponent ≤ 0 := hpart.exponent value rfl
      have hunit_pos : (1 : ℚ) ≤ unit := by exact_mod_cast hpart.unit_pos
      have hunit_le : (unit : ℚ) ≤ 2 ^ 17 := by exact_mod_cast hpart.unit_le
      replace hbound : q + value.value * unit ≤ 2 ^ 64 := hbound
      have hq := htotal.nonneg
      have hvalue := value.value_nonneg
      have hmagnitude := Decimal.near_magnitude hexponent
      have hscaled : Near 2 21 (value.value * unit) (value.magnitude.scale unit).value :=
        near_scaled hpart
      -- All numbers on the way are small beside the greatest double.
      have hvalue_le : value.value ≤ value.value * unit := le_mul_of_one_le_right hvalue hunit_pos
      have hlimit : (2 : ℚ) ^ 70 < 2 ^ (1023 : ℤ) := by
        rw [← zpow_natCast]
        exact zpow_lt_zpow_right₀ one_lt_two (by decide)
      have hfits : value.magnitude.fits = true :=
        Decimal.fits_magnitude hexponent (lt_of_le_of_lt (by linarith) hlimit)
      have hfits_scaled : (value.magnitude.scale unit).fits = true := by
        refine Dyadic.fits_scale (lt_of_le_of_lt ?_ hlimit)
        have hdouble := mul_le_mul_of_nonneg_right
          (hmagnitude.le_double (by decide) (by decide)) (zero_le_one.trans hunit_pos)
        linarith
      have hfits_sum : (total.add (value.magnitude.scale unit)).fits = true := by
        refine Dyadic.fits_add (lt_of_le_of_lt ?_ hlimit)
        have htotal_le := htotal.le_double hs hj
        have hscaled_le := hscaled.le_double (by decide) (by decide)
        linarith
      refine ⟨total.add (value.magnitude.scale unit), ?_⟩
      simp only [accumulate, hfits, hfits_scaled, hfits_sum, Bool.and_self, if_true]

theorem exists_foldl {parts : List (Option Decimal × ℕ)} (hparts : ∀ part ∈ parts, IsPart part)
    (htotal : Near s j q total.value) (hs : 2 ≤ s) (hs' : s + parts.length ≤ 8) (hj : 21 ≤ j)
    (hj' : j + 3 * parts.length ≤ 64) (hbound : q + (parts.map secondsOf).sum ≤ 2 ^ 64) :
    ∃ sum, parts.foldl accumulate (some total) = some sum := by
  induction parts generalizing s j q total with
  | nil => exact ⟨total, rfl⟩
  | cons part parts ih =>
      obtain ⟨hpart, hrest⟩ := List.forall_mem_cons.1 hparts
      rw [List.length_cons] at hs' hj'
      rw [List.map_cons, List.sum_cons, ← add_assoc] at hbound
      have hnonneg := sum_secondsOf_nonneg parts
      obtain ⟨first, hfirst⟩ :=
        exists_accumulate hpart htotal (by omega) (by omega) (by linarith)
      have hnear := near_of_accumulate hpart htotal hs hj hfirst
      obtain ⟨sum, hsum⟩ := ih hrest hnear (by omega) (by omega) (by omega) (by omega) hbound
      exact ⟨sum, by rw [List.foldl_cons, hfirst, hsum]⟩

/-- Whole parts are added without an error, up to 53 bits. -/
theorem value_accumulate {a : ℕ} (hpart : IsPart part)
    (hwhole : ∀ value ∈ part.1, ∃ m : ℕ, value.value = m) (htotal : total.value = a)
    (hlt : a + secondsOf part < 2 ^ 53) (h : accumulate (some total) part = some sum) :
    ∃ b : ℕ, secondsOf part = b ∧ sum.value = (a + b : ℕ) := by
  obtain ⟨value?, unit⟩ := part
  cases value? with
  | none =>
      obtain rfl : total = sum := Option.some.inj h
      exact ⟨0, by simp [secondsOf], by simpa using htotal⟩
  | some value =>
      obtain ⟨m, hm⟩ := hwhole value rfl
      have hseconds : secondsOf (some value, unit) = (m * unit : ℕ) := by
        rw [secondsOf, Option.elim_some, hm]
        push_cast
        rfl
      rw [hseconds] at hlt
      have hlt' : a + m * unit < 2 ^ 53 := by exact_mod_cast hlt
      have hm_le : m ≤ m * unit := Nat.le_mul_of_pos_right m hpart.unit_pos
      have hmagnitude : value.magnitude.value = m :=
        Decimal.value_magnitude_of_eq (hpart.exponent value rfl) (by omega) hm
      have hscaled : (value.magnitude.scale unit).value = (m * unit : ℕ) := by
        rw [Dyadic.value_scale_of_eq (m := m * unit) (k := 0) (by omega), hmagnitude]
        · push_cast
          rfl
        · rw [hmagnitude]
          push_cast
          ring
      have hadd : total.value + (value.magnitude.scale unit).value = (a + m * unit : ℕ) := by
        rw [htotal, hscaled]
        push_cast
        rfl
      refine ⟨m * unit, hseconds, ?_⟩
      simp only [accumulate] at h
      split at h
      · obtain rfl := Option.some.inj h
        rw [Dyadic.value_add_of_eq hlt' hadd, hadd]
      · contradiction

theorem value_foldl {a : ℕ} {parts : List (Option Decimal × ℕ)}
    (hparts : ∀ part ∈ parts, IsPart part ∧ ∀ value ∈ part.1, ∃ m : ℕ, value.value = m)
    (htotal : total.value = a) (hlt : a + (parts.map secondsOf).sum < 2 ^ 53)
    (h : parts.foldl accumulate (some total) = some sum) :
    ∃ b : ℕ, (parts.map secondsOf).sum = b ∧ sum.value = (a + b : ℕ) := by
  induction parts generalizing a total with
  | nil =>
      obtain rfl : total = sum := Option.some.inj h
      exact ⟨0, by simp, by simpa using htotal⟩
  | cons part parts ih =>
      obtain ⟨⟨hpart, hwhole⟩, hrest⟩ := List.forall_mem_cons.1 hparts
      have hnonneg := sum_secondsOf_nonneg parts
      rw [List.map_cons, List.sum_cons] at hlt ⊢
      rw [List.foldl_cons] at h
      cases hfirst : accumulate (some total) part with
      | none =>
          rw [hfirst, foldl_accumulate_none] at h
          contradiction
      | some first =>
          obtain ⟨b, hb, hvalue⟩ := value_accumulate hpart hwhole htotal (by linarith) hfirst
          rw [hfirst] at h
          obtain ⟨c, hc, hsum⟩ := ih hrest hvalue (by rw [hb] at hlt; push_cast; linarith) h
          refine ⟨b + c, by rw [hb, hc]; push_cast; rfl, ?_⟩
          rw [hsum, Nat.add_assoc]

end Adding

/-! ### Durations -/

namespace Form

variable {form : Form}

/-- The parts that are read, each with the seconds of its unit. -/
def readParts (form : Form) : List (Option Decimal × ℕ) :=
  form.components.map fun component => (component.1.map Numeral.decimal, component.2)

theorem total?_parts (form : Form) :
    form.parts.total? = form.readParts.foldl accumulate (some Dyadic.zero) := rfl

theorem isPart_of_mem_readParts {part : Option Decimal × ℕ} (h : part ∈ form.readParts) :
    IsPart part := by
  obtain ⟨⟨numeral?, unit⟩, hmem, rfl⟩ := List.mem_map.1 h
  have hunits : ∀ unit ∈ form.components.map Prod.snd, 1 ≤ unit ∧ unit ≤ 2 ^ 17 := by
    show ∀ unit ∈ [86400, 3600, 60, 1], 1 ≤ unit ∧ unit ≤ 2 ^ 17
    decide
  obtain ⟨hpos, hle⟩ := hunits unit (List.mem_map_of_mem hmem)
  refine ⟨?_, hpos, hle⟩
  intro value hvalue
  obtain ⟨numeral, -, rfl⟩ := Option.map_eq_some_iff.1 hvalue
  exact numeral.exponent_decimal_le

theorem sum_readParts (form : Form) : (form.readParts.map secondsOf).sum = form.seconds := by
  rw [readParts, List.map_map, seconds]
  congr 1
  refine List.map_congr_left fun component _ => ?_
  obtain ⟨numeral?, unit⟩ := component
  cases numeral? with
  | none => rfl
  | some numeral =>
      show numeral.decimal.value * unit = numeral.value * unit
      rw [numeral.value_decimal]

theorem IsWhole.readParts (h : form.IsWhole) {part : Option Decimal × ℕ}
    (hpart : part ∈ form.readParts) : ∀ value ∈ part.1, ∃ m : ℕ, value.value = m := by
  obtain ⟨component, hmem, rfl⟩ := List.mem_map.1 hpart
  intro value hvalue
  obtain ⟨numeral, hnumeral, rfl⟩ := Option.map_eq_some_iff.1 hvalue
  obtain ⟨m, hm⟩ := h component hmem numeral hnumeral
  exact ⟨m, by rw [numeral.value_decimal, hm]⟩

theorem near_zero : Near 2 21 0 Dyadic.zero.value := by
  rw [Dyadic.value_zero]
  exact (Near.refl (le_refl 0)).mono (by decide) (by decide)

/-- The seconds that are read are close to those that are written. -/
theorem near_total {total : Dyadic} (h : form.parts.total? = some total) :
    Near 6 33 form.seconds total.value := by
  have hnear := near_of_foldl (fun part => isPart_of_mem_readParts) near_zero (by decide) (by decide)
    (form.total?_parts.symm.trans h)
  rwa [show form.readParts.length = 4 from rfl, sum_readParts, zero_add] at hnear

theorem exists_total (h : form.seconds ≤ 2 ^ 64) : ∃ total, form.parts.total? = some total := by
  have hlength : form.readParts.length = 4 := rfl
  obtain ⟨total, htotal⟩ := exists_foldl (fun part => isPart_of_mem_readParts) near_zero (by decide)
    (by rw [hlength]; decide) (by decide) (by rw [hlength]; decide)
    (by rwa [sum_readParts, zero_add])
  exact ⟨total, form.total?_parts.trans htotal⟩

/-- Whole seconds are read as they are written. -/
theorem value_total (hwhole : form.IsWhole) (hlt : form.seconds < 2 ^ 53) {total : Dyadic}
    (h : form.parts.total? = some total) : ∃ m : ℕ, form.seconds = m ∧ total.value = m := by
  rw [total?_parts] at h
  obtain ⟨m, hm, htotal⟩ := value_foldl (a := 0)
    (fun part hpart => ⟨isPart_of_mem_readParts hpart, hwhole.readParts hpart⟩)
    (by rw [Dyadic.value_zero, Nat.cast_zero]) (by rwa [sum_readParts, Nat.cast_zero, zero_add]) h
  rw [sum_readParts] at hm
  rw [Nat.zero_add] at htotal
  exact ⟨m, hm, htotal⟩

end Form

/-- What is counted is off by one half for the last rounding, and by a small part for all others. -/
theorem abs_sub_lt_of_counted {counted : ℕ} {computed exact e c : ℚ} (hexact : 0 ≤ exact)
    (he : 2 ^ 50 * e ≤ 1) (hc : 2 ^ 50 * c < 1) (hcounted : |(counted : ℚ) - computed| ≤ 1 / 2)
    (hcomputed : |computed - exact| ≤ e * exact + c) :
    2 ^ 50 * |(counted : ℚ) - exact| < 2 ^ 49 + exact + 1 := by
  have hsum : |(counted : ℚ) - exact| ≤ 1 / 2 + (e * exact + c) :=
    (abs_sub_le _ _ _).trans (add_le_add hcounted hcomputed)
  have hpart : 2 ^ 50 * e * exact ≤ 1 * exact := mul_le_mul_of_nonneg_right he hexact
  linarith

/-- What the reader counts of a sum that is close to the exact seconds. -/
theorem abs_toNearestNat_sub_lt_of_near {total : Dyadic} {seconds : ℚ}
    (hnear : Near 6 33 seconds total.value) :
    2 ^ 50 * |((total.scale 1000000000).toNearestNat : ℚ) - seconds * 1000000000| <
      2 ^ 49 + seconds * 1000000000 + 1 := by
  have hscaled : Near 7 65 (seconds * 1000000000) (total.scale 1000000000).value :=
    (Dyadic.near_scale hnear (show 1000000000 ≤ 2 ^ 30 by decide)).mono (by decide) (by decide)
  have hrelative : (2 : ℚ) ^ 50 * ((1 + relativeError) ^ 7 - 1) ≤ 1 := by norm_num [relativeError]
  have habsolute : 2 ^ 50 * (2 ^ 65 * absoluteError) < 1 := by
    rw [← mul_assoc, ← pow_add, pow_mul_absoluteError]
    exact zpow_lt_one_of_neg₀ one_lt_two (by decide)
  exact abs_sub_lt_of_counted hscaled.nonneg hrelative habsolute
    (Dyadic.abs_toNearestNat_sub_le (total.scale 1000000000)) hscaled.close

/-- The smallest numbers have no say where both sides are integers. -/
theorem abs_sub_le_of_lt {counted n : ℕ}
    (h : 2 ^ 50 * |(counted : ℚ) - n| < 2 ^ 49 + (n : ℚ) + 1) :
    2 ^ 50 * |(counted : ℤ) - n| ≤ 2 ^ 49 + n := by
  have hint : 2 ^ 50 * |(counted : ℤ) - n| < 2 ^ 49 + n + 1 := by exact_mod_cast h
  exact Int.lt_add_one_iff.1 hint

theorem abs_toNearestNat_sub_le_of_near {total : Dyadic} {seconds : ℚ} {n : ℕ}
    (hnear : Near 6 33 seconds total.value) (hn : seconds * 1000000000 = n) :
    2 ^ 50 * |((total.scale 1000000000).toNearestNat : ℤ) - n| ≤ 2 ^ 49 + n :=
  abs_sub_le_of_lt (hn ▸ abs_toNearestNat_sub_lt_of_near hnear)

/-- Whole seconds are counted exactly but for those beyond `2 ^ 62` nanoseconds that the last rounding
changes. -/
theorem toNearestNat_eq_iff {total : Dyadic} {m n : ℕ} (htotal : total.value = m)
    (hn : m * 1000000000 = n) (hlimit : n < 2 ^ 63) :
    (total.scale 1000000000).toNearestNat = n ↔ n < 2 ^ 62 ∨ 2 ^ 10 ∣ n := by
  have hproduct : total.value * (1000000000 : ℕ) = n := by
    rw [htotal]
    exact_mod_cast hn
  constructor
  · intro hcounted
    by_contra hnot
    obtain ⟨hlarge, hodd⟩ := not_or.1 hnot
    -- The last place of so large a number is a thousand nanoseconds and more.
    have hsize : (2 : ℚ) ^ (62 : ℤ) ≤ (total.num * 1000000000 : ℕ) / total.den := by
      rw [Dyadic.quotient_scale, hproduct]
      exact_mod_cast not_lt.1 hlarge
    have hexponent : ((10 : ℕ) : ℤ) ≤ (total.scale 1000000000).exponent :=
      Dyadic.le_exponent_round total.den_pos hsize
    exact hodd (hcounted ▸ Dyadic.pow_dvd_toNearestNat hexponent)
  · rintro (hsmall | ⟨k, hk⟩)
    · have hfits : m * 1953125 < 2 ^ 53 := by omega
      have hexact : total.value * (1000000000 : ℕ) = (m * 1953125 : ℕ) * 2 ^ 9 := by
        rw [htotal]
        push_cast
        ring
      refine Dyadic.toNearestNat_of_value ?_
      rw [Dyadic.value_scale_of_eq hfits hexact, hproduct]
    · have hfits : k < 2 ^ 53 := by
        have hlt : 2 ^ 10 * k < 2 ^ 10 * 2 ^ 53 := hk ▸ hlimit
        exact Nat.lt_of_mul_lt_mul_left hlt
      have hexact : total.value * (1000000000 : ℕ) = k * 2 ^ 10 := by
        rw [hproduct, hk]
        push_cast
        ring
      refine Dyadic.toNearestNat_of_value ?_
      rw [Dyadic.value_scale_of_eq hfits hexact, hproduct]

namespace Form

variable {form : Form} {n : ℕ}

theorem signed_inj {a b : ℕ} (h : form.signed a = form.signed b) : a = b := by
  have hnanos := congrArg Duration.nanos h
  simp only [signed] at hnanos
  split at hnanos <;> omega

/-- The nanoseconds that the reader counts: it gives them, if they are below `2 ^ 63`. -/
theorem exists_counted (hn : form.seconds * 1000000000 = n) (hlimit : n < 2 ^ 63) :
    ∃ counted : ℕ,
      (ofText? form.text = if counted < 2 ^ 63 then some (form.signed counted) else none) ∧
      2 ^ 50 * |(counted : ℤ) - n| ≤ 2 ^ 49 + n ∧
      (form.IsWhole → (counted = n ↔ n < 2 ^ 62 ∨ 2 ^ 10 ∣ n)) := by
  have hn_lt : (n : ℚ) < 2 ^ 63 := by exact_mod_cast hlimit
  have hseconds : form.seconds < 2 ^ 53 := by linarith
  obtain ⟨total, htotal⟩ := exists_total (hseconds.le.trans (by norm_num))
  refine ⟨(total.scale 1000000000).toNearestNat, ?_,
    abs_toNearestNat_sub_le_of_near (near_total htotal) hn, ?_⟩
  · rw [ofText?_text_eq, ofParts?, htotal]
    rfl
  · intro hwhole
    obtain ⟨m, hm, hvalue⟩ := value_total hwhole hseconds htotal
    have hproduct : m * 1000000000 = n := by
      rw [hm] at hn
      exact_mod_cast hn
    exact toNearestNat_eq_iff hvalue hproduct hlimit

end Form

/-- A duration of less than `2 ^ 49` nanoseconds is read exactly; one with whole numbers is read
exactly unless it has `2 ^ 62` nanoseconds or more and they are no multiple of `2 ^ 10`.  What is read
of any other is off by one half and by its part `2 ^ -50` at most, and nothing is refused but close to
`2 ^ 63` nanoseconds. -/
theorem ofText?_text (form : Form) {n : ℕ} (hn : form.seconds * 1000000000 = n)
    (hlimit : n < 2 ^ 63) :
    (n < 2 ^ 49 → ofText? form.text = some (form.signed n)) ∧
    (form.IsWhole → (ofText? form.text = some (form.signed n) ↔ n < 2 ^ 62 ∨ 2 ^ 10 ∣ n)) ∧
    (∀ found, ofText? form.text = some found → ∃ counted : ℕ, found = form.signed counted ∧
      2 ^ 50 * |(counted : ℤ) - n| ≤ 2 ^ 49 + n) ∧
    (n < 2 ^ 63 - 2 ^ 14 → (ofText? form.text).isSome = true) := by
  obtain ⟨counted, hread, hclose, hwhole⟩ := Form.exists_counted hn hlimit
  have habove := le_abs_self ((counted : ℤ) - n)
  have hbelow := neg_le_abs ((counted : ℤ) - n)
  rw [hread]
  refine ⟨fun hsmall => ?_, fun hform => ?_, fun found hfound => ?_, fun hsome => ?_⟩
  · obtain rfl : counted = n := by omega
    rw [if_pos hlimit]
  · rw [← hwhole hform]
    constructor
    · intro heq
      split at heq
      · exact Form.signed_inj (Option.some.inj heq)
      · contradiction
    · rintro rfl
      rw [if_pos hlimit]
  · split at hfound
    · exact ⟨counted, (Option.some.inj hfound).symm, hclose⟩
    · contradiction
  · rw [if_pos (by omega)]
    rfl

/-- Two hours, one second and a half, backwards. -/
def hoursBack : Form where
  negative := true
  days := none
  clock := some
    { hours := some ⟨['2'], none, by simp, by simp⟩
      minutes := none
      seconds := some ⟨['1'], some ['5'], by simp, by simp⟩
      given := .inl rfl }
  given := .inr rfl

theorem ofText?_text_hoursBack :
    hoursBack.text = "-PT2H1.5S".toList ∧
      hoursBack.seconds * 1000000000 = (7201500000000 : ℕ) ∧
      ofText? hoursBack.text = some ⟨-7201500000000⟩ := by
  have hn : hoursBack.seconds * 1000000000 = (7201500000000 : ℕ) := by
    have hdigits : Text.natOfDigits ['2'] = 2 ∧ Text.natOfDigits ['1'] = 1 ∧
        Text.natOfDigits ['5'] = 5 ∧ Text.natOfDigits [] = 0 := by decide
    norm_num [Form.seconds, Form.components, hoursBack, Numeral.value, Numeral.decimals, hdigits]
  exact ⟨by decide, hn, (ofText?_text hoursBack hn (by decide)).1 (by decide)⟩

/-- Whole seconds, an odd number of them, of more than `2 ^ 62` nanoseconds. -/
def oddSeconds : Form where
  negative := false
  days := none
  clock := some
    { hours := none
      minutes := none
      seconds := some ⟨['4', '6', '1', '1', '6', '8', '6', '0', '1', '9'], none, by simp, by simp⟩
      given := .inr (.inr rfl) }
  given := .inr rfl

/-- These seconds are read as five hundred and twelve nanoseconds more. -/
theorem not_ofText?_text :
    ¬ ∀ (form : Form) (n : ℕ), form.seconds * 1000000000 = n → n < 2 ^ 63 →
      ofText? form.text = some (form.signed n) := by
  intro hall
  have hn : oddSeconds.seconds * 1000000000 = (4611686019000000000 : ℕ) := by
    have hdigits : Text.natOfDigits ['4', '6', '1', '1', '6', '8', '6', '0', '1', '9'] = 4611686019 ∧
        Text.natOfDigits [] = 0 := by decide
    norm_num [Form.seconds, Form.components, oddSeconds, Numeral.value, Numeral.decimals, hdigits]
  have hread : ofText? oddSeconds.text = some ⟨4611686019000000512⟩ := by decide +kernel
  have hexact := hall oddSeconds _ hn (by decide)
  rw [hread] at hexact
  exact absurd hexact (by decide)

end Duration
end ResourcePaths
