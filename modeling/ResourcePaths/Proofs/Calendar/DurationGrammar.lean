import ResourcePaths.Proofs.Calendar.Durations

/-!
# The texts that are durations

No text is a duration that is not written as one.  A minus sign in front turns a duration around and
decides about nothing else: a text is a duration with the sign exactly if it is one without it.  The
nanoseconds that are counted stay below `2 ^ 63` on both sides of zero, so that a word holds them and
their negation, and what lies beyond is refused: no duration is read as a shorter one.
-/

namespace ResourcePaths
namespace Duration

/-! ### Reading and counting -/

theorem ofParts?_eq_some_iff {parts : Parts} {found : Duration} :
    ofParts? parts = some found ↔ ∃ total, parts.total? = some total ∧
      (total.scale 1000000000).toNearestNat < 2 ^ 63 ∧
      found = ⟨if parts.negative then -(total.scale 1000000000).toNearestNat
        else (total.scale 1000000000).toNearestNat⟩ := by
  rw [ofParts?]
  cases parts.total? with
  | none => simp
  | some total =>
      simp only [Nat.pow_eq, Option.some.injEq, exists_eq_left']
      split
      · rename_i hlt
        rw [Option.some.injEq, eq_comm]
        exact (and_iff_right hlt).symm
      · rename_i hlarge
        simp [hlarge]

theorem exists_form_of_ofText? {text : List Char} {found : Duration}
    (h : ofText? text = some found) : ∃ form : Form, text = form.text := by
  obtain ⟨parts, hparts, -⟩ := Option.bind_eq_some_iff.1 h
  exact exists_form_of_partsReader (Reader.whole_eq_some_iff.1 hparts)

namespace Form

variable {form : Form} {found : Duration}

/-- What is read of a duration lies in the range of words and is close to what is written, however
much that is. -/
theorem exists_counted_of_ofText? (h : ofText? form.text = some found) :
    ∃ counted : ℕ, found = form.signed counted ∧ counted < 2 ^ 63 ∧
      2 ^ 50 * |(counted : ℚ) - form.seconds * 1000000000| <
        2 ^ 49 + form.seconds * 1000000000 + 1 := by
  rw [ofText?_text_eq, ofParts?_eq_some_iff] at h
  obtain ⟨total, htotal, hlt, hfound⟩ := h
  exact ⟨_, hfound, hlt, abs_toNearestNat_sub_lt_of_near (near_total htotal)⟩

/-- Too long a duration is not cut down to one that can be held. -/
theorem ofText?_eq_none_of_le (h : 2 ^ 63 + 2 ^ 14 ≤ form.seconds * 1000000000) :
    ofText? form.text = none := by
  by_contra hsome
  obtain ⟨found, hfound⟩ := Option.ne_none_iff_exists'.1 hsome
  obtain ⟨counted, -, hlt, hclose⟩ := exists_counted_of_ofText? hfound
  have hcounted : (counted : ℚ) < 2 ^ 63 := by exact_mod_cast hlt
  have hbelow := neg_le_abs ((counted : ℚ) - form.seconds * 1000000000)
  linarith

/-! ### The sign -/

/-- The same numbers, with a minus sign or without one. -/
def withSign (form : Form) (negative : Bool) : Form :=
  { form with negative := negative }

/-- The text behind the sign. -/
theorem cons_eq_text_iff {rest : List Char} :
    '-' :: rest = form.text ↔ form.negative = true ∧ rest = (form.withSign false).text := by
  cases hsign : form.negative with
  | true => simp [text, withSign, hsign]
  | false => simp [text, hsign]

theorem negative_of_head? (h : form.text.head? ≠ some '-') : form.negative = false := by
  cases hsign : form.negative with
  | true => exact absurd (by simp [text, hsign]) h
  | false => rfl

/-- The sign is looked at after everything else. -/
theorem ofText?_withSign (form : Form) :
    ofText? (form.withSign true).text =
      (ofText? (form.withSign false).text).map fun found => ⟨-found.nanos⟩ := by
  have htotal : (form.withSign true).parts.total? = (form.withSign false).parts.total? := rfl
  have hsigns : (form.withSign true).parts.negative = true ∧
      (form.withSign false).parts.negative = false := ⟨rfl, rfl⟩
  rw [ofText?_text_eq, ofText?_text_eq, ofParts?, ofParts?, htotal, hsigns.1, hsigns.2]
  cases (form.withSign false).parts.total? with
  | none => rfl
  | some total =>
      by_cases hlt : (total.scale 1000000000).toNearestNat < Nat.pow 2 63
      · simp only [hlt, if_true, Bool.false_eq_true, if_false, Option.map_some]
      · simp only [hlt, if_false, Option.map_none]

end Form

/-- A minus sign in front of a text that has none turns what is read around, and nothing is read with
it that is not read without it. -/
theorem ofText?_minus {text : List Char} (h : text.head? ≠ some '-') :
    ofText? ('-' :: text) = (ofText? text).map fun found => ⟨-found.nanos⟩ := by
  by_cases hform : ∃ form : Form, text = form.text
  · obtain ⟨form, rfl⟩ := hform
    have hsign : form.withSign false = form := by
      rw [Form.withSign, ← Form.negative_of_head? h]
    have hminus : '-' :: form.text = (form.withSign true).text :=
      Form.cons_eq_text_iff.2 ⟨rfl, congrArg Form.text hsign.symm⟩
    rw [hminus, Form.ofText?_withSign, hsign]
  · -- A text with the sign that is written as a duration is written as one without it.
    have hnone : ofText? text = none := by
      by_contra hsome
      obtain ⟨found, hfound⟩ := Option.ne_none_iff_exists'.1 hsome
      exact hform (exists_form_of_ofText? hfound)
    have hnone' : ofText? ('-' :: text) = none := by
      by_contra hsome
      obtain ⟨found, hfound⟩ := Option.ne_none_iff_exists'.1 hsome
      obtain ⟨form, hminus⟩ := exists_form_of_ofText? hfound
      exact hform ⟨_, (Form.cons_eq_text_iff.1 hminus).2⟩
    rw [hnone, hnone', Option.map_none]

/-- Only durations are read, each as a number of nanoseconds below `2 ^ 63` that is close to what is
written, and none of so many nanoseconds or more; the text behind a minus sign is read exactly if it
is read without the sign, as the negation of what is read then, which is not negative. -/
theorem ofText?_grammar :
    (∀ text found, ofText? text = some found → ∃ form : Form, text = form.text) ∧
    (∀ (form : Form) found, ofText? form.text = some found →
      ∃ counted : ℕ, found = form.signed counted ∧ counted < 2 ^ 63 ∧
        2 ^ 50 * |(counted : ℚ) - form.seconds * 1000000000| <
          2 ^ 49 + form.seconds * 1000000000 + 1) ∧
    (∀ form : Form, 2 ^ 63 + 2 ^ 14 ≤ form.seconds * 1000000000 → ofText? form.text = none) ∧
    ∀ text : List Char, text.head? ≠ some '-' →
      (ofText? ('-' :: text) = (ofText? text).map fun found => ⟨-found.nanos⟩) ∧
      ∀ found, ofText? text = some found → 0 ≤ found.nanos ∧ found.nanos < 2 ^ 63 := by
  refine ⟨fun _ _ => exists_form_of_ofText?, fun _ _ => Form.exists_counted_of_ofText?,
    fun _ => Form.ofText?_eq_none_of_le, fun text hhead => ⟨ofText?_minus hhead, ?_⟩⟩
  intro found hfound
  obtain ⟨form, rfl⟩ := exists_form_of_ofText? hfound
  obtain ⟨counted, rfl, hlt, -⟩ := Form.exists_counted_of_ofText? hfound
  have hsign := Form.negative_of_head? hhead
  simp only [Form.signed, hsign, Bool.false_eq_true, if_false]
  omega

theorem Numeral.digits_of_none :
    ∀ digits ∈ (none : Option (List Char)), digits ≠ [] ∧ ∀ c ∈ digits, c.isDigit = true := by
  simp

/-- Two hundred and ninety-two years, in days. -/
def longSpan : Form where
  negative := true
  days := some ⟨['1', '0', '6', '7', '5', '2'], none, by simp, Numeral.digits_of_none⟩
  clock := none
  given := .inl rfl

/-- The longest time that is read, forwards and backwards, and one of a few minutes more. -/
theorem ofText?_grammar_limits :
    (∃ form : Form, "-P106751DT23H47M16.854775S".toList = form.text) ∧
      ofText? "-P106751DT23H47M16.854775S".toList = some ⟨-9223372036854774784⟩ ∧
      longSpan.text = "-P106752D".toList ∧ ofText? longSpan.text = none := by
  have hread : ofText? "P106751DT23H47M16.854775S".toList = some ⟨9223372036854774784⟩ := by
    decide +kernel
  have hminus : ofText? "-P106751DT23H47M16.854775S".toList = some ⟨-9223372036854774784⟩ := by
    have hsign := (ofText?_grammar.2.2.2 "P106751DT23H47M16.854775S".toList (by decide)).1
    rwa [hread] at hsign
  have hlong : (2 : ℚ) ^ 63 + 2 ^ 14 ≤ longSpan.seconds * 1000000000 := by
    have hdigits : Text.natOfDigits ['1', '0', '6', '7', '5', '2'] = 106752 ∧
        Text.natOfDigits [] = 0 := by decide
    norm_num [Form.seconds, Form.components, longSpan, Numeral.value, Numeral.decimals, hdigits]
  exact ⟨ofText?_grammar.1 _ _ hminus, hminus, by decide, ofText?_grammar.2.2.1 longSpan hlong⟩

example : ofText? "P".toList = none ∧ ofText? "P1DT".toList = none := by decide

end Duration
end ResourcePaths
