import Mathlib.Algebra.Ring.Nat
import Mathlib.Data.List.Induction
import ResourcePaths.Text.Classes

/-!
# Digits

Numbers are written in as many digits as they need (`Nat.toDigits`), or in a fixed number of them
(`padded`).  Reading the digits gives the number back, and digits belong to no class of characters
that begins anything but a number.
-/

namespace ResourcePaths
namespace Text

/-! ### The class of digits -/

theorem isDigit_iff {c : Char} : c.isDigit = true ↔ 48 ≤ c.toNat ∧ c.toNat ≤ 57 := by
  rw [Char.isDigit, Bool.and_eq_true, decide_eq_true_eq, decide_eq_true_eq]
  exact Iff.rfl

theorem isBlank_of_isDigit {c : Char} (h : c.isDigit = true) : isBlank c = false := by
  obtain ⟨hlow, hhigh⟩ := isDigit_iff.1 h
  simp only [isBlank, Bool.or_eq_false_iff, Bool.and_eq_false_iff, decide_eq_false_iff_not]
  omega

theorem isSign_of_isDigit {c : Char} (h : c.isDigit = true) : (c = '+' || c = '-') = false := by
  rw [Bool.or_eq_false_iff, decide_eq_false_iff_not, decide_eq_false_iff_not]
  constructor
  · rintro rfl
    contradiction
  · rintro rfl
    contradiction

/-- No name starts with a digit. -/
theorem startsName_of_isDigit {c : Char} (h : c.isDigit = true) : startsName c = false := by
  obtain ⟨hlow, hhigh⟩ := isDigit_iff.1 h
  have hascii : c.toNat < 128 := by omega
  have halpha : c.isAlpha = false := by
    rw [Bool.eq_false_iff]
    intro halpha
    rcases Bool.or_eq_true_iff.1 halpha with hupper | hlower
    · have hletter : 65 ≤ c.toNat := UInt32.le_iff_toNat_le.1 (of_decide_eq_true hupper).1
      omega
    · have hletter : 97 ≤ c.toNat :=
        UInt32.le_iff_toNat_le.1 (of_decide_eq_true (Bool.and_eq_true_iff.1 hlower).1)
      omega
  have hunderscore : c ≠ '_' := by
    rintro rfl
    contradiction
  simp [startsName, isAlphabetic, hascii, halpha, hunderscore]

/-! ### The value of digits -/

theorem natOfDigits_concat (front : List Char) (c : Char) :
    natOfDigits (front ++ [c]) = 10 * natOfDigits front + (c.toNat - 48) :=
  List.foldl_append

theorem natOfDigits_append (front back : List Char) :
    natOfDigits (front ++ back) = natOfDigits front * 10 ^ back.length + natOfDigits back := by
  induction back using List.reverseRecOn with
  | nil => simp [natOfDigits]
  | append_singleton back c ih =>
      rw [← List.append_assoc, natOfDigits_concat, natOfDigits_concat, ih, List.length_append,
        List.length_singleton, Nat.pow_succ, ← Nat.mul_assoc]
      omega

theorem natOfDigits_toDigits (n : Nat) : natOfDigits (Nat.toDigits 10 n) = n :=
  Nat.ofDigitChars_ten_toDigits

/-! ### A fixed number of digits -/

/-- The last `width` digits of a number, with zeroes in front where it has fewer. -/
def padded : Nat → Nat → List Char
  | 0, _ => []
  | width + 1, n => padded width (n / 10) ++ [Nat.digitChar (n % 10)]

@[simp]
theorem length_padded (width n : Nat) : (padded width n).length = width := by
  induction width generalizing n with
  | zero => rfl
  | succ width ih => rw [padded, List.length_append, ih, List.length_singleton]

theorem isDigit_padded (width n : Nat) : ∀ c ∈ padded width n, c.isDigit = true := by
  intro c hc
  induction width generalizing n with
  | zero => contradiction
  | succ width ih =>
      rcases List.mem_append.1 hc with hfront | hlast
      · exact ih (n / 10) hfront
      · rw [List.mem_singleton.1 hlast, Nat.isDigit_digitChar]
        exact decide_eq_true (Nat.mod_lt n (by decide))

/-- A padded number starts with a digit. -/
theorem isDigit_of_mem_head?_padded {width n : Nat} {rest : List Char} {c : Char}
    (hwidth : 0 < width) (h : c ∈ (padded width n ++ rest).head?) : c.isDigit = true := by
  have hne : padded width n ≠ [] := by
    rw [← List.length_pos_iff, length_padded]
    exact hwidth
  obtain ⟨first, others, heq⟩ := List.exists_cons_of_ne_nil hne
  rw [heq] at h
  obtain rfl : first = c := by simpa using h
  exact isDigit_padded width n first (heq ▸ List.mem_cons_self)

/-- The digits of a number that has no more of them write that number. -/
theorem natOfDigits_padded {width n : Nat} (h : n < 10 ^ width) :
    natOfDigits (padded width n) = n := by
  induction width generalizing n with
  | zero =>
      obtain rfl : n = 0 := Nat.lt_one_iff.1 h
      rfl
  | succ width ih =>
      have hfront : n / 10 < 10 ^ width := by
        rw [pow_succ] at h
        exact Nat.div_lt_of_lt_mul (by omega)
      have hlast : (Nat.digitChar (n % 10)).toNat - 48 = n % 10 :=
        Nat.toNat_digitChar_sub_48_of_lt_ten (Nat.mod_lt n (by decide))
      rw [padded, natOfDigits_concat, ih hfront, hlast]
      exact Nat.div_add_mod n 10

end Text
end ResourcePaths
