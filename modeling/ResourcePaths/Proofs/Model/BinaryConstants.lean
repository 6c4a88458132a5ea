import Mathlib.Tactic.SplitIfs
import ResourcePaths.Model.Constant
import ResourcePaths.Proofs.Text.Words

/-!
# Binary constants

The bytes of a binary constant are written by two hexadecimal digits each.  The reader cuts the text
into pairs and reads each of them as a number, and a number may have a plus sign in front: such a
pair writes the byte of its one digit.  With a zero in place of the sign the text is what the bytes
are written as, up to the case of its letters.
-/

namespace ResourcePaths

/-! ### Hexadecimal digits -/

namespace Text

theorem toNat_hexDigit {n : Nat} (h : n < 16) :
    (hexDigit n).toNat = if n < 10 then 48 + n else 87 + n := by
  have hall : ∀ n < 16, (hexDigit n).toNat = if n < 10 then 48 + n else 87 + n := by decide
  exact hall n h

theorem hexValue?_eq_some_iff_toNat {c : Char} {n : Nat} :
    hexValue? c = some n ↔ 48 ≤ c.toNat ∧ c.toNat ≤ 57 ∧ n = c.toNat - 48 ∨
      97 ≤ c.toNat ∧ c.toNat ≤ 102 ∧ n = c.toNat - 87 ∨
      65 ≤ c.toNat ∧ c.toNat ≤ 70 ∧ n = c.toNat - 55 := by
  have hrange (low high : Char) :
      low ≤ c ∧ c ≤ high ↔ low.toNat ≤ c.toNat ∧ c.toNat ≤ high.toNat := Iff.rfl
  simp only [hexValue?, hrange, Char.reduceToNat]
  split_ifs <;> simp only [Option.some.injEq, false_iff] <;> omega

/-- A digit of either case is that of its value once it is a small letter. -/
theorem hexValue?_eq_some_iff {c : Char} {n : Nat} :
    hexValue? c = some n ↔ n < 16 ∧ c.toLower = hexDigit n := by
  have hcodes : n < 16 ∧ c.toLower = hexDigit n ↔
      n < 16 ∧ c.toLower.toNat = if n < 10 then 48 + n else 87 + n :=
    and_congr_right fun hn => by rw [← toNat_hexDigit hn, Char.toNat_inj]
  rw [hcodes, toNat_toLower, hexValue?_eq_some_iff_toNat]
  split <;> split <;> omega

theorem length_fold (text : List Char) : (fold text).length = text.length :=
  List.length_map ..

end Text

namespace ConstantValue

open Text (fold hexDigit hexValue? isHex)

/-! ### Bytes and their digits -/

/-- The digits of a byte, the high one first. -/
def digitsOf (byte : UInt8) : List Char :=
  [hexDigit (byte.toNat / 16), hexDigit (byte.toNat % 16)]

/-- How bytes are written. -/
def writeBytes (bytes : List UInt8) : List Char :=
  bytes.flatMap digitsOf

/-- The digit that a plus sign counts as in front of another one. -/
def unsigned (first : Char) : Char :=
  if first = '+' then '0' else first

/-- The text with a zero for each plus sign in the first place of a pair. -/
def unsignedPairs : List Char → List Char
  | first :: second :: rest => unsigned first :: second :: unsignedPairs rest
  | rest => rest

theorem writeBytes_cons (byte : UInt8) (bytes : List UInt8) :
    writeBytes (byte :: bytes) =
      hexDigit (byte.toNat / 16) :: hexDigit (byte.toNat % 16) :: writeBytes bytes := rfl

theorem length_writeBytes (bytes : List UInt8) : (writeBytes bytes).length = 2 * bytes.length := by
  induction bytes with
  | nil => rfl
  | cons byte bytes ih =>
      rw [writeBytes_cons, List.length_cons, List.length_cons, ih, List.length_cons]
      omega

/-- Every character of the writing is the small digit of some value. -/
theorem exists_of_mem_writeBytes {bytes : List UInt8} {c : Char} (h : c ∈ writeBytes bytes) :
    ∃ n < 16, c = hexDigit n := by
  obtain ⟨byte, -, hc⟩ := List.mem_flatMap.1 h
  have hbyte : byte.toNat < 256 := byte.toNat_lt
  rcases List.mem_pair.1 hc with rfl | rfl
  · exact ⟨byte.toNat / 16, by omega, rfl⟩
  · exact ⟨byte.toNat % 16, by omega, rfl⟩

theorem length_unsignedPairs (text : List Char) : (unsignedPairs text).length = text.length := by
  fun_induction unsignedPairs text with
  | case1 first second rest ih => simp only [List.length_cons, ih]
  | case2 => rfl

theorem unsignedPairs_of_notMem {text : List Char} (h : '+' ∉ text) : unsignedPairs text = text := by
  fun_induction unsignedPairs text with
  | case1 first second rest ih =>
      have hfirst : first ≠ '+' := fun heq => h (heq ▸ List.mem_cons_self)
      have hrest : '+' ∉ rest := fun hmem => h (List.mem_cons_of_mem _ (List.mem_cons_of_mem _ hmem))
      rw [unsigned, if_neg hfirst, ih hrest]
  | case2 => rfl

/-! ### Pairs -/

/-- A pair is read digit by digit, once the sign is away. -/
theorem byte?_eq_bind (first second : Char) :
    byte? first second = (hexValue? (unsigned first)).bind fun high =>
      (hexValue? second).map fun low => UInt8.ofNat (16 * high + low) := by
  by_cases hplus : first = '+'
  · subst hplus
    have hsign : hexValue? '+' = none := by decide
    have hzero : hexValue? (unsigned '+') = some 0 := by decide
    rw [byte?, hsign, hzero]
    cases hexValue? second with
    | none => rfl
    | some low =>
        rw [Option.bind_some, Option.map_some, Nat.mul_zero, Nat.zero_add]
        rfl
  · rw [byte?, unsigned, if_neg hplus]
    cases hexValue? first with
    | none =>
        cases hexValue? second with
        | none => rfl
        | some low => exact if_neg hplus
    | some high => cases hexValue? second <;> rfl

theorem byte?_eq_some_iff {first second : Char} {byte : UInt8} :
    byte? first second = some byte ↔
      hexDigit (byte.toNat / 16) = (unsigned first).toLower ∧
        hexDigit (byte.toNat % 16) = second.toLower := by
  have hbyte : byte.toNat < 256 := byte.toNat_lt
  rw [byte?_eq_bind]
  constructor
  · intro h
    obtain ⟨high, hhigh, h⟩ := Option.bind_eq_some_iff.1 h
    obtain ⟨low, hlow, rfl⟩ := Option.map_eq_some_iff.1 h
    obtain ⟨hhighlt, hhigh⟩ := Text.hexValue?_eq_some_iff.1 hhigh
    obtain ⟨hlowlt, hlow⟩ := Text.hexValue?_eq_some_iff.1 hlow
    have hvalue : (UInt8.ofNat (16 * high + low)).toNat = 16 * high + low :=
      UInt8.toNat_ofNat_of_lt' (show 16 * high + low < 256 by omega)
    rw [hvalue, show (16 * high + low) / 16 = high by omega,
      show (16 * high + low) % 16 = low by omega]
    exact ⟨hhigh.symm, hlow.symm⟩
  · rintro ⟨hhigh, hlow⟩
    rw [Text.hexValue?_eq_some_iff.2 ⟨show byte.toNat / 16 < 16 by omega, hhigh.symm⟩,
      Text.hexValue?_eq_some_iff.2 ⟨show byte.toNat % 16 < 16 by omega, hlow.symm⟩,
      Option.bind_some, Option.map_some, Nat.div_add_mod, UInt8.ofNat_toNat]

/-! ### Texts -/

/-- Bytes are read from the texts that write them, in letters of either case and with a sign for a
zero in front. -/
theorem bytes?_eq_some_iff {text : List Char} {bytes : List UInt8} :
    bytes? text = some bytes ↔ writeBytes bytes = fold (unsignedPairs text) := by
  induction text using bytes?.induct generalizing bytes with
  | case1 =>
      cases bytes with
      | nil => exact iff_of_true rfl rfl
      | cons => exact iff_of_false (by simp [bytes?]) (List.cons_ne_nil _ _)
  | case2 c =>
      refine iff_of_false (by simp [bytes?]) fun h => ?_
      have hlength := congrArg List.length h
      rw [length_writeBytes, Text.length_fold, length_unsignedPairs, List.length_singleton] at hlength
      omega
  | case3 first second rest ih =>
      show ((byte? first second).bind fun byte => (bytes? rest).bind fun bytes =>
        some (byte :: bytes)) = some bytes ↔ writeBytes bytes =
          (unsigned first).toLower :: second.toLower :: fold (unsignedPairs rest)
      cases bytes with
      | nil =>
          refine iff_of_false (fun h => ?_) (List.cons_ne_nil _ _).symm
          obtain ⟨_, -, h⟩ := Option.bind_eq_some_iff.1 h
          obtain ⟨_, -, h⟩ := Option.bind_eq_some_iff.1 h
          exact List.cons_ne_nil _ _ (Option.some.inj h)
      | cons byte bytes =>
          simp only [Option.bind_eq_some_iff, Option.some.injEq, List.cons.injEq, writeBytes_cons,
            byte?_eq_some_iff, ih]
          constructor
          · rintro ⟨found, ⟨hhigh, hlow⟩, others, hothers, rfl, rfl⟩
            exact ⟨hhigh, hlow, hothers⟩
          · rintro ⟨hhigh, hlow, hothers⟩
            exact ⟨byte, ⟨hhigh, hlow⟩, bytes, hothers, rfl, rfl⟩

/-- A text of pairs of digits has the bytes of the pairs. -/
theorem exists_bytes?_of_isHex {text : List Char} (hlength : text.length % 2 = 0)
    (h : ∀ c ∈ unsignedPairs text, isHex c = true) : ∃ bytes, bytes? text = some bytes := by
  induction text using bytes?.induct with
  | case1 => exact ⟨[], rfl⟩
  | case2 c => contradiction
  | case3 first second rest ih =>
      rw [unsignedPairs, List.forall_mem_cons, List.forall_mem_cons] at h
      obtain ⟨hfirst, hsecond, hrest⟩ := h
      rw [List.length_cons, List.length_cons] at hlength
      obtain ⟨bytes, hbytes⟩ := ih (by omega) hrest
      obtain ⟨high, hhigh⟩ := Option.isSome_iff_exists.1 hfirst
      obtain ⟨low, hlow⟩ := Option.isSome_iff_exists.1 hsecond
      refine ⟨UInt8.ofNat (16 * high + low) :: bytes, ?_⟩
      rw [bytes?, byte?_eq_bind, hhigh, hlow, hbytes]
      rfl

theorem exists_bytes?_iff {text : List Char} :
    (∃ bytes, bytes? text = some bytes) ↔
      text.length % 2 = 0 ∧ ∀ c ∈ unsignedPairs text, isHex c = true := by
  constructor
  · rintro ⟨bytes, hbytes⟩
    have hwritten := bytes?_eq_some_iff.1 hbytes
    constructor
    · rw [← length_unsignedPairs, ← Text.length_fold, ← hwritten, length_writeBytes,
        Nat.mul_mod_right]
    · intro c hc
      have hmem : c.toLower ∈ writeBytes bytes := by
        rw [hwritten]
        exact List.mem_map_of_mem hc
      obtain ⟨n, hn, hdigit⟩ := exists_of_mem_writeBytes hmem
      rw [isHex, Text.hexValue?_eq_some_iff.2 ⟨hn, hdigit⟩, Option.isSome_some]
  · rintro ⟨hlength, hall⟩
    exact exists_bytes?_of_isHex hlength hall

/-- The small digits of bytes stay as they are, and none of them is a sign. -/
theorem fold_unsignedPairs_writeBytes (bytes : List UInt8) :
    fold (unsignedPairs (writeBytes bytes)) = writeBytes bytes := by
  have hdigits : ∀ n < 16, hexDigit n ≠ '+' ∧ (hexDigit n).toLower = hexDigit n := by decide
  rw [unsignedPairs_of_notMem]
  · refine (List.map_congr_left fun c hc => ?_).trans (List.map_id _)
    obtain ⟨n, hn, rfl⟩ := exists_of_mem_writeBytes hc
    exact (hdigits n hn).2
  · intro hplus
    obtain ⟨n, hn, hdigit⟩ := exists_of_mem_writeBytes hplus
    exact (hdigits n hn).1 hdigit.symm

/-- A text is a binary constant exactly when it has an even number of characters, and all of them are
hexadecimal digits but for plus signs in the first place of a pair, which count as zeros; the bytes
are those that are written as the text is in small letters; where there is no sign the text counts as
it is, and all bytes are read again from what they are written as. -/
theorem binary_exact (text : String) (bytes : List UInt8) :
    ((∃ value, ofText? .binary text = some value) ↔
      text.toList.length % 2 = 0 ∧ ∀ c ∈ unsignedPairs text.toList, isHex c = true) ∧
    (ofText? .binary text = some (.binary bytes) ↔
      writeBytes bytes = fold (unsignedPairs text.toList)) ∧
    ('+' ∉ text.toList → unsignedPairs text.toList = text.toList) ∧
    ofText? .binary (String.ofList (writeBytes bytes)) = some (.binary bytes) := by
  have hvalue (text : String) (bytes : List UInt8) :
      ofText? .binary text = some (.binary bytes) ↔ bytes? text.toList = some bytes := by
    rw [ofText?, Option.map_eq_some_iff]
    simp
  refine ⟨?_, ?_, unsignedPairs_of_notMem, ?_⟩
  · rw [← exists_bytes?_iff]
    simp only [ofText?, Option.map_eq_some_iff]
    exact ⟨fun ⟨_, bytes, hbytes, _⟩ => ⟨bytes, hbytes⟩, fun ⟨bytes, hbytes⟩ =>
      ⟨_, bytes, hbytes, rfl⟩⟩
  · rw [hvalue, bytes?_eq_some_iff]
  · rw [hvalue, bytes?_eq_some_iff, String.toList_ofList, fold_unsignedPairs_writeBytes]

/-- A plus sign is no digit, and in front of one it is read. -/
theorem not_binary_exact :
    ¬ ∀ text : String, (∃ value, ofText? .binary text = some value) ↔
      text.toList.length % 2 = 0 ∧ ∀ c ∈ text.toList, isHex c = true := by
  intro hall
  obtain ⟨-, hdigits⟩ := (hall "+f").1 ⟨.binary [15], by decide⟩
  exact absurd (hdigits '+' (by decide)) (by decide)

end ConstantValue
end ResourcePaths
