import ResourcePaths.Literal.Parser
import ResourcePaths.Proofs.Number.Words
import ResourcePaths.Proofs.Text.Digits
import ResourcePaths.Proofs.Text.Reading

/-!
# The form that counts

A text is read by the first form that reads something at its front.  A literal is read back from
its text, then, when the forms in front of its own read nothing there.  The words among the forms
are told from numbers, dates and guids by letters that these do not have, and a qualified name by
its dot or its first letter.

Strings and integers are what keys are mostly made of.  A quoted text of any characters is read
back, and an integer is read as the number that its digits write, or not at all.
-/

namespace ResourcePaths
namespace Literal

/-! ### The order of the forms -/

section Order

variable {text : List Char} {front back : List (Reader Literal)} {form : Reader Literal}

/-- A form that reads the whole text counts when the forms in front of it read nothing. -/
theorem ofText?_of_form {literal : Literal} (hforms : forms = front ++ form :: back)
    (hfront : ∀ other ∈ front, other text = none) (hform : form text = some (literal, [])) :
    ofText? (String.ofList text) = some literal := by
  rw [ofText?, String.toList_ofList, Reader.whole_eq_some_iff, reader, hforms,
    Reader.foldr_or_of_eq_none hfront, List.foldr_cons]
  exact Reader.or_of_eq_some hform _

/-- The last form decides about a text of which the others read nothing. -/
theorem ofText?_of_last (hforms : forms = front ++ [form])
    (hfront : ∀ other ∈ front, other text = none) :
    ofText? (String.ofList text) = Reader.whole form text := by
  rw [ofText?, String.toList_ofList, Reader.whole, Reader.whole, reader, hforms,
    Reader.foldr_or_of_eq_none hfront, List.foldr_cons, List.foldr_nil, Reader.or_failure]

end Order

/-- The forms that are words or quoted texts, or begin with one. -/
def wordForms : List (Reader Literal) :=
  [nullForm, booleanForm, durationForm, stringForm, enumForm]

theorem stringForm_eq_none {text : List Char} (h : text.head? ≠ some '\'') :
    stringForm text = none := by
  refine Reader.bind_of_eq_none (Reader.bind_of_eq_none ?_ _) _
  cases text with
  | nil => rfl
  | cons c rest =>
      have hc : c ≠ '\'' := fun heq => h (congrArg some heq)
      rw [Quoted.read?]
      rintro _ heq
      exact hc (List.cons.inj heq).1

/-- Texts without the letters `s` and `u` and without quotes hold none of the words. -/
theorem wordForms_eq_none {text : List Char} (hs : 's' ∉ text) (hu : 'u' ∉ text)
    (hquote : '\'' ∉ text) (hname : Reader.qualifiedName text = none) :
    ∀ form ∈ wordForms, form text = none := by
  have hnull : nullForm text = none :=
    Reader.bind_of_eq_none (Reader.word_eq_none (by decide : 'u' ∈ "null".toList) hu) _
  have htrue : (do Reader.word "true".toList; pure (boolean true) : Reader Literal) text = none :=
    Reader.bind_of_eq_none (Reader.word_eq_none (by decide : 'u' ∈ "true".toList) hu) _
  have hfalse : (do Reader.word "false".toList; pure (boolean false) : Reader Literal) text = none :=
    Reader.bind_of_eq_none (Reader.word_eq_none (by decide : 's' ∈ "false".toList) hs) _
  have hboolean : booleanForm text = none := by
    rw [booleanForm, Reader.or_of_eq_none htrue, hfalse]
  have hduration : durationForm text = none :=
    Reader.bind_of_eq_none (Reader.word_eq_none (by decide : 'u' ∈ "duration".toList) hu) _
  have hstring : stringForm text = none :=
    stringForm_eq_none fun hhead => hquote (List.mem_of_head? hhead)
  have henum : enumForm text = none := Reader.bind_of_eq_none hname _
  simp [wordForms, hnull, hboolean, hduration, hstring, henum]

/-! ### Quoted texts -/

/-- A text between quotes, its own quotes doubled. -/
def quote (value : String) : List Char :=
  Quoted.write value.toList

theorem quoted_quote (value : String) : quoted (quote value) = some (value, []) := by
  have hread : Quoted.read? (quote value) = some (value.toList, []) := by
    simpa [quote] using Quoted.read?_write value.toList (show ([] : List Char).head? ≠ some '\'' by simp)
  rw [quoted, Reader.bind_of_eq_some hread, String.ofList_toList]
  rfl

/-- A quoted text is read back, whatever its characters are. -/
theorem ofText?_quote (value : String) :
    ofText? (String.ofList (quote value)) = some (string value) := by
  have hfront : ∀ form ∈ [nullForm, booleanForm, durationForm], form (quote value) = none := by
    simp only [List.forall_mem_cons, List.not_mem_nil, IsEmpty.forall_iff, implies_true, and_true]
    exact ⟨rfl, rfl, rfl⟩
  have hform : stringForm (quote value) = some (string value, []) := by
    rw [stringForm, Reader.bind_of_eq_some (quoted_quote value)]
    rfl
  exact ofText?_of_form (by rfl) hfront hform

/-! ### Integers -/

/-- An integer as it is written: perhaps a sign, digits, and perhaps the suffix `L` of either
case. -/
structure IntegerText where
  sign : Option Char
  digits : List Char
  suffix : Option Char
  isSign : ∀ c ∈ sign, c = '+' ∨ c = '-'
  ne_nil : digits ≠ []
  isDigit : ∀ c ∈ digits, c.isDigit = true
  isSuffix : ∀ c ∈ suffix, c = 'L' ∨ c = 'l'

namespace IntegerText

def write (integer : IntegerText) : List Char :=
  integer.sign.toList ++ (integer.digits ++ integer.suffix.toList)

/-- The number, however large. -/
def value (integer : IntegerText) : Int :=
  if integer.sign = some '-' then -(Text.natOfDigits integer.digits : Int)
  else Text.natOfDigits integer.digits

theorem mem_write {integer : IntegerText} {c : Char} (h : c ∈ integer.write) :
    c ∈ ['+', '-', 'L', 'l'] ∨ c.isDigit = true := by
  rcases List.mem_append.1 h with hsign | h
  · rcases integer.isSign c (by simpa using hsign) with rfl | rfl
    · exact .inl (by decide)
    · exact .inl (by decide)
  rcases List.mem_append.1 h with hdigit | hsuffix
  · exact .inr (integer.isDigit c hdigit)
  · rcases integer.isSuffix c (by simpa using hsuffix) with rfl | rfl
    · exact .inl (by decide)
    · exact .inl (by decide)

theorem not_mem_write (integer : IntegerText) {c : Char}
    (hc : c ∉ ['+', '-', 'L', 'l'] ∧ c.isDigit = false) : c ∉ integer.write := by
  intro h
  rcases mem_write h with hmark | hdigit
  · exact hc.1 hmark
  · rw [hc.2] at hdigit
    contradiction

theorem wordForms_write (integer : IntegerText) :
    ∀ form ∈ wordForms, form integer.write = none := by
  have hname : Reader.qualifiedName integer.write = none :=
    Reader.qualifiedName_eq_none (integer.not_mem_write (by decide))
  exact wordForms_eq_none (integer.not_mem_write (by decide)) (integer.not_mem_write (by decide))
    (integer.not_mem_write (by decide)) hname

/-- No group of characters that do not have a sign stands in front of a hyphen. -/
theorem exactly_hyphen_write {β : Type} (integer : IntegerText) {kind : Char → Bool} {count : Nat}
    (hcount : 0 < count) (hkind : kind '+' = false ∧ kind '-' = false)
    (next : List Char → Reader β) :
    (do let taken ← Reader.exactly count kind; let _ ← Reader.char '-'; next taken)
      integer.write = none := by
  cases hsign : integer.sign with
  | some sign =>
      have hnot : kind sign = false := by
        rcases integer.isSign sign hsign with rfl | rfl
        · exact hkind.1
        · exact hkind.2
      rw [write, hsign]
      exact Reader.bind_of_eq_none (Reader.exactly_eq_none (List.length_nil ▸ hcount) hnot _) _
  | none =>
      refine Reader.exactly_char_eq_none (fun h => ?_) next
      rw [write, hsign, Option.toList_none, List.nil_append] at h
      rcases List.mem_append.1 h with hdigit | hsuffix
      · exact absurd (integer.isDigit '-' hdigit) (by decide)
      · exact absurd (integer.isSuffix '-' (by simpa using hsuffix)) (by decide)

/-- The parts of the text are read as they were written. -/
theorem numberParts_write (integer : IntegerText) :
    numberParts integer.write =
      some (⟨integer.sign, integer.digits, none, none, integer.suffix⟩, []) := by
  have hsign : Reader.maybe (Reader.satisfying fun c => c = '+' || c = '-') integer.write =
      some (integer.sign, integer.digits ++ integer.suffix.toList) := by
    refine Reader.maybe_satisfying_append (fun c hc => by simpa using integer.isSign c hc) ?_
    intro c hc
    obtain ⟨first, others, hdigits⟩ := List.exists_cons_of_ne_nil integer.ne_nil
    obtain rfl : first = c := by simpa [hdigits] using hc
    exact Text.isSign_of_isDigit (integer.isDigit first (hdigits ▸ List.mem_cons_self))
  have hsuffix : (∀ c ∈ integer.suffix.toList.head?, c.isDigit = false) ∧
      Reader.maybe (do let _ ← Reader.char '.'; Reader.many1 Char.isDigit) integer.suffix.toList =
        some (none, integer.suffix.toList) ∧
      Reader.maybe Decimal.exponentReader integer.suffix.toList =
        some (none, integer.suffix.toList) ∧
      Reader.maybe (Reader.satisfying fun c => "LlDdFfMm".toList.contains c)
        integer.suffix.toList = some (integer.suffix, []) := by
    cases hsuffix : integer.suffix with
    | none => exact ⟨by simp, rfl, rfl, rfl⟩
    | some suffix =>
        rcases integer.isSuffix suffix hsuffix with rfl | rfl
        · exact ⟨by simp, rfl, rfl, rfl⟩
        · exact ⟨by simp, rfl, rfl, rfl⟩
  obtain ⟨hend, hfraction, hexponent, hletter⟩ := hsuffix
  rw [numberParts, Reader.bind_of_eq_some hsign,
    Reader.bind_of_eq_some (Reader.many1_append integer.ne_nil integer.isDigit hend),
    Reader.bind_of_eq_some hfraction, Reader.bind_of_eq_some hexponent,
    Reader.bind_of_eq_some hletter]
  rfl

theorem value?_parts (integer : IntegerText) :
    NumberParts.value? ⟨integer.sign, integer.digits, none, none, integer.suffix⟩ =
      (Integer.toWord? integer.value).map Literal.integer := by
  cases hsuffix : integer.suffix with
  | none => simp [NumberParts.value?, value]
  | some suffix =>
      rcases integer.isSuffix suffix hsuffix with rfl | rfl
      · simp [NumberParts.value?, value]
      · simp [NumberParts.value?, value]

end IntegerText

/-- An integer is read as its value, and not at all where that has no word. -/
theorem ofText?_integerText (written : IntegerText) :
    ofText? (String.ofList written.write) = (Integer.toWord? written.value).map integer := by
  have hguid : guidForm written.write = none :=
    Reader.filterMap_of_eq_none (written.exactly_hyphen_write (by decide) (by decide) _) _
  have hdateText : dateText written.write = none :=
    written.exactly_hyphen_write (by decide) (by decide) _
  have hinstant : instantForm written.write = none :=
    Reader.filterMap_of_eq_none (Reader.bind_of_eq_none hdateText _) _
  have hdate : dateForm written.write = none := Reader.filterMap_of_eq_none hdateText _
  have htime : timeForm written.write = none :=
    Reader.filterMap_of_eq_none
      (Reader.exactly_char_eq_none (written.not_mem_write (by decide)) _) _
  have hfront : ∀ form ∈ wordForms ++ [guidForm, instantForm, dateForm, timeForm],
      form written.write = none := by
    intro form hform
    rcases List.mem_append.1 hform with hword | hother
    · exact written.wordForms_write form hword
    · simp only [List.mem_cons, List.not_mem_nil, or_false] at hother
      rcases hother with rfl | rfl | rfl | rfl
      · exact hguid
      · exact hinstant
      · exact hdate
      · exact htime
  rw [ofText?_of_last (by rfl) hfront, numberForm, Reader.whole_filterMap written.numberParts_write,
    written.value?_parts]

/-- The decimal digits of an integer behind its sign, without zeroes in front. -/
def IntegerText.decimal (n : Int) (suffix : Option Char)
    (isSuffix : ∀ c ∈ suffix, c = 'L' ∨ c = 'l') : IntegerText where
  sign := if n < 0 then some '-' else none
  digits := Nat.toDigits 10 n.natAbs
  suffix := suffix
  isSign := by
    intro c hc
    split at hc
    · exact .inr (Option.some.inj hc).symm
    · contradiction
  ne_nil := Nat.toDigits_ne_nil
  isDigit := fun _ hc => Nat.isDigit_of_mem_toDigits (by decide) (by decide) hc
  isSuffix := isSuffix

@[simp]
theorem IntegerText.value_decimal (n : Int) (suffix : Option Char)
    (isSuffix : ∀ c ∈ suffix, c = 'L' ∨ c = 'l') : (decimal n suffix isSuffix).value = n := by
  simp only [value, decimal, Text.natOfDigits_toDigits]
  by_cases hneg : n < 0
  · rw [if_pos hneg, if_pos rfl]
    omega
  · rw [if_neg hneg, if_neg (by simp)]
    omega

theorem IntegerText.write_decimal (n : Int) (suffix : Option Char)
    (isSuffix : ∀ c ∈ suffix, c = 'L' ∨ c = 'l') :
    (decimal n suffix isSuffix).write = (toString n).toList ++ suffix.toList := by
  rw [show toString n = n.repr from rfl, Int.repr_eq_if]
  simp only [write, decimal]
  by_cases hneg : n < 0
  · rw [if_pos hneg, if_neg (Int.not_le.2 hneg), String.toList_append, Nat.toList_repr,
      show (-n).toNat = n.natAbs by omega]
    rfl
  · rw [if_neg hneg, if_pos (Int.not_lt.1 hneg), Nat.toList_repr, show n.toNat = n.natAbs by omega]
    rfl

/-- An integer is read back from its decimal form. -/
theorem ofText?_toString (n : Int) : ofText? (toString n) = (Integer.toWord? n).map integer := by
  have hread := ofText?_integerText (.decimal n none (by simp))
  rwa [IntegerText.write_decimal, Option.toList_none, List.append_nil, String.ofList_toList,
    IntegerText.value_decimal] at hread

/-- An integer is read back from its decimal form with the suffix `L`. -/
theorem ofText?_toString_long (n : Int) :
    ofText? (toString n ++ "L") = (Integer.toWord? n).map integer := by
  have hread := ofText?_integerText (.decimal n (some 'L') (by simp))
  rwa [IntegerText.write_decimal, IntegerText.value_decimal,
    show (toString n).toList ++ (some 'L').toList = (toString n ++ "L").toList by
      rw [String.toList_append]; rfl, String.ofList_toList] at hread

end Literal
end ResourcePaths
