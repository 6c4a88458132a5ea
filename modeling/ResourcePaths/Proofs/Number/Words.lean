import ResourcePaths.Number.Integer

/-!
# Integers and words

A word of sixty-four bits is an integer of its range, and each integer of the range is that of one
word.  No other integer has a word: reading never wraps.
-/

namespace ResourcePaths
namespace Integer

theorem inSigned_word_iff {n : Int} :
    inSigned 64 n = true ↔ -9223372036854775808 ≤ n ∧ n < 9223372036854775808 := by
  have hhalf : ((Nat.pow 2 (64 - 1) : Nat) : Int) = 9223372036854775808 := rfl
  simp only [inSigned, hhalf, Bool.and_eq_true, decide_eq_true_eq]
  exact and_comm

@[simp]
theorem inSigned_toInt (word : Int64) : inSigned 64 word.toInt = true :=
  inSigned_word_iff.2 ⟨word.le_toInt, word.toInt_lt⟩

@[simp]
theorem inUnsigned_toNat (word : UInt32) : inUnsigned 32 (word.toNat : Int) = true := by
  have hlt : word.toNat < Nat.pow 2 32 := word.toNat_lt
  simp only [inUnsigned, Bool.and_eq_true, decide_eq_true_eq]
  omega

@[simp]
theorem toWord?_toInt (word : Int64) : toWord? word.toInt = some word := by
  rw [toWord?, if_pos (inSigned_toInt word), Int64.ofInt_toInt]

theorem toWord?_eq_none_iff {n : Int} : toWord? n = none ↔ inSigned 64 n = false := by
  rw [toWord?]
  split
  · rename_i hrange
    simp [hrange]
  · rename_i hrange
    simp [hrange]

theorem toWord?_eq_some_iff {n : Int} {word : Int64} : toWord? n = some word ↔ word.toInt = n := by
  constructor
  · intro h
    rw [toWord?] at h
    split at h
    · rename_i hrange
      obtain rfl := Option.some.inj h
      obtain ⟨hlow, hhigh⟩ := inSigned_word_iff.1 hrange
      exact Int64.toInt_ofInt_of_le hlow hhigh
    · contradiction
  · rintro rfl
    exact toWord?_toInt word

/-- Arithmetic that stops at the ends of the range. -/
theorem toInt_saturate (n : Int) :
    (saturate n).toInt = max (-9223372036854775808) (min n 9223372036854775807) := by
  rw [saturate]
  split
  · rename_i hrange
    obtain ⟨hlow, hhigh⟩ := inSigned_word_iff.1 hrange
    rw [Int64.toInt_ofInt_of_le hlow hhigh]
    omega
  · rename_i hrange
    rw [inSigned_word_iff] at hrange
    have hleast : Int64.minValue.toInt = -9223372036854775808 := by decide
    have hgreatest : Int64.maxValue.toInt = 9223372036854775807 := by decide
    split <;> omega

end Integer
end ResourcePaths
