import ResourcePaths.Proofs.Literal.Constants
import ResourcePaths.Proofs.Number.Overflow

/-!
# Decimals among literals

A number with a point, an exponent or the letter of a floating type is a decimal, however large it is:
from the bound of doubles on it is read as an infinity.  A constant of the same text has the same
double below the bound, and no value from there on.  The key check does not look at the double.
-/

namespace ResourcePaths
namespace Literal

/-- The magnitude of the number, exactly. -/
def NumberText.value (number : NumberText) : ℚ :=
  number.numeral.value * (10 : ℚ) ^ number.scale

theorem NumberText.value_decimal (number : NumberText) : number.decimal.value = number.value := by
  have hten : (10 : ℚ) ≠ 0 := by norm_num
  have hplain := number.numeral.value_decimal
  rw [value, ← hplain]
  show ((Text.natOfDigits (number.numeral.whole ++ number.numeral.decimals) : ℕ) : ℚ) *
      10 ^ (number.scale - number.numeral.decimals.length) =
    (Text.natOfDigits (number.numeral.whole ++ number.numeral.decimals) : ℕ) *
      10 ^ ((0 : ℤ) - number.numeral.decimals.length) * 10 ^ number.scale
  -- Both sides have the same digits; the powers of ten are put together.
  rw [mul_assoc, ← zpow_add₀ hten]
  congr 2
  omega

/-- None of the forms in front of numbers gives a decimal. -/
theorem gives_of_mem_forms {form : Reader Literal} (hmem : form ∈ forms) (hne : form ≠ numberForm) :
    form.Gives fun found => ∀ double, found ≠ decimal double := by
  simp only [forms, List.mem_cons, List.not_mem_nil, or_false] at hmem
  rcases hmem with rfl | rfl | rfl | rfl | rfl | rfl | rfl | rfl | rfl | rfl
  · exact .bind fun _ => .pure (by simp)
  · exact .or (.bind fun _ => .pure (by simp)) (.bind fun _ => .pure (by simp))
  · exact .bind fun _ => .bind fun _ => .pure (by simp)
  · exact .bind fun _ => .pure (by simp)
  · exact .bind fun _ => .bind fun _ => .pure (by simp)
  · exact .filterMap_map (by simp)
  · exact .filterMap_map (by simp)
  · exact .filterMap_map (by simp)
  · exact .filterMap_map (by simp)
  · exact absurd rfl hne

/-- The number that a decimal is read from. -/
theorem exists_number_of_decimal {text : String} {double : Double}
    (h : ofText? text = some (decimal double)) :
    ∃ number : NumberText, numberParts text.toList = some (number.parts, []) ∧
      text.toList = number.write ∧ double = number.decimal.toDouble := by
  obtain ⟨form, hmem, hform⟩ := exists_form_of_ofText? h
  obtain rfl : form = numberForm := by
    by_contra hne
    exact gives_of_mem_forms hmem hne _ _ _ hform double rfl
  obtain ⟨parts, hparts, hvalue⟩ := Reader.filterMap_eq_some_iff.1 hform
  obtain ⟨number, htext, rfl⟩ := numberParts_eq_some hparts
  refine ⟨number, hparts, by rw [htext, List.append_nil], ?_⟩
  rcases NumberText.value?_eq_some hvalue with ⟨word, hword⟩ | hdouble
  · contradiction
  · exact decimal.inj hdouble

/-! ### Constants of the same text -/

theorem finite?_write {number : NumberText} (hsuffix : number.suffix = none) :
    ConstantValue.finite? number.write =
      if number.decimal.toDouble.isFinite then some number.decimal.toDouble else none := by
  rw [ConstantValue.finite?, number.ofText?_write hsuffix, Option.map_some, Option.filter_some]

/-- The three texts without digits are no numbers. -/
theorem floating?_eq_finite? {text : String} {parts : NumberParts}
    (h : numberParts text.toList = some (parts, [])) :
    ConstantValue.floating? text = ConstantValue.finite? text.toList := by
  -- The reader of numbers takes nothing from any of the three.
  rw [ConstantValue.floating?.eq_def]
  split
  · contradiction
  · contradiction
  · contradiction
  · rfl

theorem accepts_decimal_iff {primitive : Primitive} {double : Double} :
    primitive.accepts (decimal double) = true ↔ primitive ∈ [.decimal, .double, .single] := by
  cases primitive <;> simp [Primitive.accepts]

/-- A decimal is a number with a magnitude of any size: the double is finite exactly if that is below
the bound of doubles, and otherwise it is the infinity of the sign.  Where the number has no suffix,
the constants of the text have this double if it is finite, and no value if it is not.  The key check
takes the double for decimals, doubles and singles in both cases. -/
theorem ofText?_decimal {text : String} {double : Double}
    (h : ofText? text = some (decimal double)) :
    (∃ number : NumberText, text.toList = number.write ∧ double = number.decimal.toDouble ∧
      (double.isFinite = true ↔ number.value < Dyadic.overflowBound) ∧
      (double.isFinite = false →
        double = if number.isNegative then Double.negativeInfinity else Double.infinity)) ∧
    (isSuffixed text.toList = false →
      ConstantValue.ofText? .decimal text =
          (if double.isFinite then some (.decimal double) else none) ∧
        ConstantValue.ofText? .floating text =
          if double.isFinite then some (.floating double) else none) ∧
    ∀ primitive : Primitive,
      primitive.accepts (decimal double) = true ↔ primitive ∈ [.decimal, .double, .single] := by
  obtain ⟨number, hparts, htext, rfl⟩ := exists_number_of_decimal h
  have hfinite : number.decimal.toDouble.isFinite = true ↔ number.value < Dyadic.overflowBound := by
    rw [number.decimal.isFinite_toDouble_iff, number.value_decimal]
  refine ⟨⟨number, htext, rfl, hfinite, fun hnot => ?_⟩, fun hplain => ?_, fun _ => accepts_decimal_iff⟩
  · refine Decimal.toDouble_of_overflow (not_lt.1 fun hlt => ?_)
    rw [(number.decimal.isFinite_toDouble_iff).2 hlt] at hnot
    contradiction
  · have hsuffix := NumberText.suffix_eq_none (htext ▸ hplain)
    have hread : ConstantValue.finite? text.toList =
        if number.decimal.toDouble.isFinite then some number.decimal.toDouble else none := by
      rw [htext, finite?_write hsuffix]
    constructor
    · rw [ConstantValue.ofText?, hread]
      split <;> rfl
    · rw [ConstantValue.ofText?, floating?_eq_finite? hparts, hread]
      split <;> rfl

/-- A number with digits behind the greatest double, which is still rounded to it. -/
theorem ofText?_decimal_greatest :
    ofText? "1.7976931348623158e308" = some (decimal ⟨0x7fefffffffffffff⟩) ∧
      isSuffixed "1.7976931348623158e308".toList = false ∧
      ConstantValue.ofText? .floating "1.7976931348623158e308" =
        some (.floating ⟨0x7fefffffffffffff⟩) ∧
      Primitive.single.accepts (decimal ⟨0x7fefffffffffffff⟩) = true := by
  have hread : ofText? "1.7976931348623158e308" = some (decimal ⟨0x7fefffffffffffff⟩) := by
    decide +kernel
  have hplain : isSuffixed "1.7976931348623158e308".toList = false := by decide
  have hdecimal := ofText?_decimal hread
  refine ⟨hread, hplain, ?_, (hdecimal.2.2 .single).2 (by decide)⟩
  rw [(hdecimal.2.1 hplain).2, if_pos (by decide +kernel)]

/-- A literal with a great exponent is an infinity, which the key check takes, while no constant has
this text. -/
theorem not_ofText?_decimal :
    ¬ (∀ text double, ofText? text = some (decimal double) → isSuffixed text.toList = false →
        ConstantValue.ofText? .decimal text = some (.decimal double) ∧
          ConstantValue.ofText? .floating text = some (.floating double)) ∧
      ¬ (∀ text double, ofText? text = some (decimal double) → double.isFinite = true) ∧
      ¬ (∀ text double, ofText? text = some (decimal double) →
          Primitive.double.accepts (decimal double) = true → double.isFinite = true) := by
  have hread : ofText? "1e400" = some (decimal Double.infinity) := by decide +kernel
  have hinfinite : Double.infinity.isFinite = false := by decide +kernel
  have hnone : ConstantValue.ofText? .decimal "1e400" = none := by decide +kernel
  refine ⟨fun h => ?_, fun h => ?_, fun h => ?_⟩
  · have hvalue := (h _ _ hread (by decide)).1
    rw [hnone] at hvalue
    exact absurd hvalue (by simp)
  · have hfinite := h _ _ hread
    rw [hinfinite] at hfinite
    exact Bool.false_ne_true hfinite
  · have hfinite := h _ _ hread rfl
    rw [hinfinite] at hfinite
    exact Bool.false_ne_true hfinite

end Literal
end ResourcePaths
