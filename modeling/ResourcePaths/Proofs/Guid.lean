import Mathlib.Algebra.Ring.Nat
import Mathlib.Data.List.Basic
import ResourcePaths.Guid

/-!
# Guids in groups

The identifier is written digit by digit from the front, and read in the same direction: behind
some of the digits, the number read so far is the identifier without the digits that are still to
come.  The hyphens stand where the groups end and are taken away again.
-/

namespace ResourcePaths

namespace Text

theorem hexValue?_hexDigit {n : Nat} (h : n < 16) : hexValue? (hexDigit n) = some n := by
  have hall : ∀ n < 16, hexValue? (hexDigit n) = some n := by decide
  exact hall n h

theorem isHex_hexDigit {n : Nat} (h : n < 16) : isHex (hexDigit n) = true := by
  rw [isHex, hexValue?_hexDigit h, Option.isSome_some]

end Text

namespace Guid

@[simp]
theorem length_digits (guid : Guid) : guid.digits.length = 32 := by
  rw [digits, List.length_map, List.length_range]

theorem isHex_of_mem_digits {guid : Guid} {c : Char} (h : c ∈ guid.digits) :
    Text.isHex c = true := by
  obtain ⟨i, -, rfl⟩ := List.mem_map.1 h
  exact Text.isHex_hexDigit (Nat.mod_lt _ (by decide))

/-- Behind its first `count` digits an identifier is known but for the digits still to come. -/
theorem ofHex?_digits_front (guid : Guid) {count : Nat} (hcount : count ≤ 32) :
    ofHex? ((List.range count).map fun i =>
        Text.hexDigit (guid.value.toNat / Nat.pow 16 (31 - i) % 16)) =
      some (guid.value.toNat / Nat.pow 16 (32 - count)) := by
  induction count with
  | zero =>
      have hzero : guid.value.toNat / Nat.pow 16 32 = 0 := Nat.div_eq_of_lt guid.value.isLt
      rw [Nat.sub_zero, hzero]
      rfl
  | succ count ih =>
      -- One more division by 16 leaves off one digit less, and the next digit is its remainder.
      have hstep : Nat.pow 16 (32 - count) = Nat.pow 16 (31 - count) * 16 := by
        rw [show 32 - count = 31 - count + 1 by omega]
        rfl
      have hdigit := Text.hexValue?_hexDigit
        (Nat.mod_lt (guid.value.toNat / Nat.pow 16 (31 - count)) (show 16 > 0 by decide))
      have hlast : 16 * (guid.value.toNat / (Nat.pow 16 (31 - count) * 16)) +
          guid.value.toNat / Nat.pow 16 (31 - count) % 16 =
            guid.value.toNat / Nat.pow 16 (31 - count) := by
        rw [← Nat.div_div_eq_div_mul]
        exact Nat.div_add_mod _ 16
      rw [ofHex?] at ih
      rw [List.range_succ, List.map_append, ofHex?, List.foldlM_append, ih (by omega), hstep,
        List.map_singleton, Option.bind_eq_bind, Option.bind_some, List.foldlM_cons, hdigit,
        Option.map_some, hlast, show 32 - (count + 1) = 31 - count by omega]
      rfl

theorem ofDigits?_digits (guid : Guid) : ofDigits? guid.digits = some guid := by
  have hall : ofHex? guid.digits = some guid.value.toNat := by
    have := guid.ofHex?_digits_front (Nat.le_refl 32)
    rwa [Nat.sub_self, show Nat.pow 16 0 = 1 from rfl, Nat.div_one] at this
  rw [ofDigits?, if_pos guid.length_digits, hall, Option.map_some, BitVec.ofNat_toNat,
    BitVec.setWidth_eq]

/-! ### Groups -/

theorem length_addHyphens {sizes : List Nat} {digits : List Char} (hne : sizes ≠ [])
    (hlength : digits.length = sizes.sum) :
    (addHyphens sizes digits).length + 1 = digits.length + sizes.length := by
  fun_induction addHyphens sizes digits with
  | case1 => contradiction
  | case2 => simp
  | case3 size sizes digits hmore ih =>
      rw [List.sum_cons] at hlength
      have hrest : (digits.drop size).length = sizes.sum := by
        rw [List.length_drop]
        omega
      have := ih hmore hrest
      simp only [List.length_append, List.length_take, List.length_cons, List.length_drop] at *
      omega

/-- Digits in groups are the digits again without the hyphens. -/
theorem dropHyphens?_addHyphens {sizes : List Nat} {digits : List Char}
    (hlength : digits.length = sizes.sum) :
    dropHyphens? sizes (addHyphens sizes digits) = some digits := by
  fun_induction addHyphens sizes digits with
  | case1 => rfl
  | case2 size digits =>
      rw [List.sum_singleton] at hlength
      rw [dropHyphens?, if_pos hlength]
  | case3 size sizes digits hmore ih =>
      rw [List.sum_cons] at hlength
      have hfront : (digits.take size).length = size := by
        rw [List.length_take]
        omega
      have hrest : (digits.drop size).length = sizes.sum := by
        rw [List.length_drop]
        omega
      rw [dropHyphens?]
      · simp only [List.drop_left' hfront, List.take_left' hfront, ih hrest, Option.map_some,
          List.take_append_drop]
      · exact hmore

theorem mem_addHyphens {sizes : List Nat} {digits : List Char} {c : Char}
    (h : c ∈ addHyphens sizes digits) : c ∈ digits ∨ c = '-' := by
  fun_induction addHyphens sizes digits with
  | case1 => exact .inl h
  | case2 => exact .inl h
  | case3 size sizes digits hmore ih =>
      rcases List.mem_append.1 h with hfront | hback
      · exact .inl (List.mem_of_mem_take hfront)
      · rcases List.mem_cons.1 hback with rfl | hback
        · exact .inr rfl
        · exact (ih hback).imp_left List.mem_of_mem_drop

theorem isHex_of_mem_write {guid : Guid} {c : Char} (h : c ∈ guid.write) :
    Text.isHex c = true ∨ c = '-' :=
  (mem_addHyphens h).imp_left isHex_of_mem_digits

theorem length_write (guid : Guid) : guid.write.length = 36 := by
  have hlength : guid.write.length + 1 = guid.digits.length + groups.length :=
    length_addHyphens (List.cons_ne_nil _ _) guid.length_digits
  rw [guid.length_digits] at hlength
  exact Nat.succ.inj hlength

/-- A guid in groups is read back. -/
theorem ofText?_write (guid : Guid) : ofText? guid.write = some guid := by
  have hdigits : dropHyphens? groups guid.write = some guid.digits :=
    dropHyphens?_addHyphens guid.length_digits
  rw [ofText?, guid.length_write]
  simp only [ofHyphenated?, hdigits, Option.bind_some, ofDigits?_digits]

end Guid
end ResourcePaths
