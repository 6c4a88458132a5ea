import ResourcePaths.Literal.Parser
import ResourcePaths.Proofs.Calendar.DurationForms
import ResourcePaths.Proofs.Number.Words

/-!
# Numbers as they are written

A number is written with a sign, digits, a point and digits, an exponent and a suffix, of which only
the first digits have to be there.  The form of numbers takes exactly the texts of this shape, and the
readers of constants take those of them that have no suffix: the reader of integers, where there is no
point and no exponent, and the reader of decimals in any case.  All of them find the same digits.
-/

namespace ResourcePaths
namespace Literal

open Duration (Numeral)

/-! ### The shape of a number -/

/-- The power of ten that a number is multiplied by. -/
structure ExponentText where
  mark : Char
  sign : Option Char
  digits : List Char
  isMark : mark = 'e' ∨ mark = 'E'
  isSign : ∀ c ∈ sign, c = '+' ∨ c = '-'
  isDigit : digits ≠ [] ∧ ∀ c ∈ digits, c.isDigit = true

namespace ExponentText

def write (exponent : ExponentText) : List Char :=
  exponent.mark :: (exponent.sign.toList ++ exponent.digits)

def value (exponent : ExponentText) : Int :=
  if exponent.sign = some '-' then -(Text.natOfDigits exponent.digits : Int)
  else Text.natOfDigits exponent.digits

end ExponentText

/-- A number with its parts. -/
structure NumberText where
  sign : Option Char
  numeral : Numeral
  exponent : Option ExponentText
  suffix : Option Char
  isSign : ∀ c ∈ sign, c = '+' ∨ c = '-'
  isSuffix : ∀ c ∈ suffix, c ∈ "LlDdFfMm".toList

namespace NumberText

def exponentText (number : NumberText) : List Char :=
  (number.exponent.map ExponentText.write).getD []

def write (number : NumberText) : List Char :=
  number.sign.toList ++ (number.numeral.text ++ (number.exponentText ++ number.suffix.toList))

/-- The power of ten; zero where none is written. -/
def scale (number : NumberText) : Int :=
  (number.exponent.map ExponentText.value).getD 0

def isNegative (number : NumberText) : Bool :=
  number.sign = some '-'

/-- What is read of the number. -/
def parts (number : NumberText) : NumberParts :=
  ⟨number.sign, number.numeral.whole, number.numeral.fraction, number.exponent.map ExponentText.value,
    number.suffix⟩

/-- The digits in front of the point behind the sign. -/
def integer (number : NumberText) : Int :=
  if number.isNegative then -(Text.natOfDigits number.numeral.whole : Int)
  else Text.natOfDigits number.numeral.whole

/-- The number, exactly. -/
def decimal (number : NumberText) : Decimal :=
  .ofDigits number.isNegative number.numeral.whole number.numeral.decimals number.scale

end NumberText

/-- Whether a number ends with the letter of its type. -/
def isSuffixed (text : List Char) : Bool :=
  text.getLast?.any fun c => "LlDdFfMm".toList.contains c

theorem NumberText.suffix_eq_none {number : NumberText} (h : isSuffixed number.write = false) :
    number.suffix = none := by
  cases hsuffix : number.suffix with
  | none => rfl
  | some c =>
      have hlast : number.write.getLast? = some c := by
        simp [NumberText.write, hsuffix]
      have hletter : "LlDdFfMm".toList.contains c = true :=
        List.contains_iff_mem.2 (number.isSuffix c hsuffix)
      rw [isSuffixed, hlast, Option.any_some, hletter] at h
      contradiction

/-! ### What the readers take -/

section Reading

variable {text back : List Char}

theorem sign_eq_some {sign : Option Char}
    (h : Reader.maybe (Reader.satisfying fun c => c = '+' || c = '-') text = some (sign, back)) :
    text = sign.toList ++ back ∧ ∀ c ∈ sign, c = '+' ∨ c = '-' := by
  obtain ⟨htext, hsign⟩ := Reader.maybe_satisfying_eq_some h
  exact ⟨htext, fun c hc => by simpa using hsign c hc⟩

theorem maybe_exponent_eq_some {found : Option Int}
    (h : Reader.maybe Decimal.exponentReader text = some (found, back)) :
    ∃ exponent : Option ExponentText, text = (exponent.map ExponentText.write).getD [] ++ back ∧
      found = exponent.map ExponentText.value := by
  rcases Reader.maybe_eq_some_iff.1 h with ⟨value, rfl, hread⟩ | ⟨rfl, rfl, -⟩
  · simp only [Decimal.exponentReader, Decimal.sign, Reader.bind_eq_some_iff,
      Reader.satisfying_eq_some_iff, Reader.many1_eq_some_iff, Reader.pure_eq_some_iff] at hread
    obtain ⟨mark, _, ⟨rfl, hmark⟩, _, _, ⟨sign, _, hsign, rfl, rfl⟩, digits, _,
      ⟨rfl, hne, hdigits, -⟩, rfl, rfl⟩ := hread
    obtain ⟨rfl, hsigns⟩ := sign_eq_some hsign
    refine ⟨some ⟨mark, sign, digits, by simpa using hmark, hsigns, hne, hdigits⟩, ?_, ?_⟩
    · simp [ExponentText.write]
    · simp [ExponentText.value]
  · exact ⟨none, rfl, rfl⟩

/-- Numbers are all that is taken. -/
theorem numberParts_eq_some {parts : NumberParts} (h : numberParts text = some (parts, back)) :
    ∃ number : NumberText, text = number.write ++ back ∧ parts = number.parts := by
  simp only [numberParts, Reader.bind_eq_some_iff, Reader.many1_eq_some_iff,
    Reader.pure_eq_some_iff] at h
  obtain ⟨sign, _, hsign, whole, _, ⟨rfl, hne, hdigits, -⟩, fraction, _, hfraction, _, _, hexponent,
    suffix, _, hsuffix, rfl, rfl⟩ := h
  obtain ⟨rfl, hsigns⟩ := sign_eq_some hsign
  obtain ⟨numeral, rfl, rfl, htext⟩ := Duration.exists_numeral ⟨hne, hdigits⟩ hfraction
  obtain ⟨exponent, rfl, rfl⟩ := maybe_exponent_eq_some hexponent
  obtain ⟨rfl, hsuffixes⟩ := Reader.maybe_satisfying_eq_some hsuffix
  refine ⟨⟨sign, numeral, exponent, suffix, hsigns, fun c hc => ?_⟩, ?_, rfl⟩
  · exact List.contains_iff_mem.1 (hsuffixes c hc)
  · simp [NumberText.write, NumberText.exponentText, htext]

end Reading

namespace NumberText

variable {number : NumberText}

/-- A number is an integer where it has neither a point nor an exponent, and is in range. -/
theorem value?_eq_integer {word : Int64} (h : number.parts.value? = some (.integer word)) :
    number.numeral.fraction = none ∧ number.exponent = none ∧
      Integer.toWord? number.integer = some word := by
  simp only [NumberParts.value?] at h
  split at h
  · rename_i hplain
    simp only [parts, Bool.and_eq_true, Option.isNone_iff_eq_none, Option.map_eq_none_iff] at hplain
    obtain ⟨found, hfound, hword⟩ := Option.map_eq_some_iff.1 h
    obtain rfl := Literal.integer.inj hword
    refine ⟨hplain.1.1, hplain.1.2, ?_⟩
    rw [← hfound, integer, isNegative]
    by_cases hsign : number.sign = some '-' <;> simp [hsign, parts]
  · split at h
    · contradiction
    · simp at h

/-- A number is the integer that its digits write, or the double nearest to it. -/
theorem value?_eq_some {literal : Literal} (h : number.parts.value? = some literal) :
    (∃ word, literal = .integer word) ∨ literal = .decimal number.decimal.toDouble := by
  simp only [NumberParts.value?] at h
  split at h
  · obtain ⟨word, -, rfl⟩ := Option.map_eq_some_iff.1 h
    exact .inl ⟨word, rfl⟩
  · split at h
    · contradiction
    · exact .inr (Option.some.inj h).symm

end NumberText

/-! ### The readers of constants -/

theorem isDigit_of_mem_head?_digits {digits rest : List Char}
    (h : digits ≠ [] ∧ ∀ c ∈ digits, c.isDigit = true) :
    ∀ c ∈ (digits ++ rest).head?, c.isDigit = true := by
  obtain ⟨first, others, rfl⟩ := List.exists_cons_of_ne_nil h.1
  rintro _ ⟨rfl⟩
  exact h.2 first List.mem_cons_self

/-- A sign is taken in front of digits, if there is one. -/
theorem sign_digits {sign : Option Char} {digits rest : List Char}
    (hsign : ∀ c ∈ sign, c = '+' ∨ c = '-') (hdigits : digits ≠ [] ∧ ∀ c ∈ digits, c.isDigit = true) :
    Decimal.sign (sign.toList ++ (digits ++ rest)) = some (decide (sign = some '-'), digits ++ rest) := by
  have hread : Reader.maybe (Reader.satisfying fun c => c = '+' || c = '-')
      (sign.toList ++ (digits ++ rest)) = some (sign, digits ++ rest) := by
    refine Reader.maybe_satisfying_append (fun c hc => by simpa using hsign c hc) fun c hc => ?_
    exact Text.isSign_of_isDigit (isDigit_of_mem_head?_digits hdigits c hc)
  rw [Decimal.sign, Reader.bind_of_eq_some hread]
  rfl

theorem exponentReader_write (exponent : ExponentText) :
    Decimal.exponentReader exponent.write = some (exponent.value, []) := by
  have hmark : (exponent.mark = 'e' || exponent.mark = 'E') = true := by
    simpa using exponent.isMark
  have hsign : Decimal.sign (exponent.sign.toList ++ exponent.digits) =
      some (decide (exponent.sign = some '-'), exponent.digits) := by
    have hread := @sign_digits exponent.sign exponent.digits [] exponent.isSign exponent.isDigit
    rwa [List.append_nil] at hread
  have hdigits : Reader.many1 Char.isDigit exponent.digits = some (exponent.digits, []) :=
    Reader.many1_eq_some_iff.2 ⟨by simp, exponent.isDigit.1, exponent.isDigit.2, by simp⟩
  rw [Decimal.exponentReader, ExponentText.write,
    Reader.bind_of_eq_some (Reader.satisfying_cons hmark _), Reader.bind_of_eq_some hsign,
    Reader.bind_of_eq_some hdigits, Reader.pure_apply]
  simp [ExponentText.value]

namespace NumberText

variable {number : NumberText}

theorem exponentPart_exponentText (number : NumberText) :
    Decimal.exponentPart number.exponentText = some (number.scale, []) := by
  rw [Decimal.exponentPart, exponentText, scale]
  cases number.exponent with
  | none => rfl
  | some exponent =>
      exact Reader.bind_of_eq_some (Reader.maybe_of_eq_some (exponentReader_write exponent)) _

/-- Neither digits nor a point go on behind the digits of the number. -/
theorem endsNumber_exponentText (number : NumberText) :
    ∀ c ∈ number.exponentText.head?, Duration.EndsNumber c := by
  rw [exponentText]
  cases number.exponent with
  | none => simp
  | some exponent =>
      rintro _ ⟨rfl⟩
      rcases exponent.isMark with hmark | hmark
      · rw [hmark]
        exact ⟨by decide, by decide⟩
      · rw [hmark]
        exact ⟨by decide, by decide⟩

/-- What stands behind the first digits. -/
theorem maybe_fraction (numeral : Numeral) {rest : List Char}
    (hrest : ∀ c ∈ rest.head?, Duration.EndsNumber c) :
    ∃ tail, numeral.text = numeral.whole ++ tail ∧
      (∀ c ∈ (tail ++ rest).head?, c.isDigit = false) ∧
      Reader.maybe (Reader.char '.' >>= fun _ => Reader.many Char.isDigit) (tail ++ rest) =
        some (numeral.fraction, rest) := by
  cases hfraction : numeral.fraction with
  | none =>
      have hpoint : rest.head? ≠ some '.' := fun hhead => (hrest '.' hhead).2 rfl
      refine ⟨[], by rw [Numeral.text, hfraction], fun c hc => (hrest c hc).1, ?_⟩
      exact Reader.maybe_of_eq_none (Reader.bind_of_eq_none (Reader.char_eq_none hpoint) _)
  | some digits =>
      obtain ⟨-, hdigits⟩ := numeral.fraction_digits digits hfraction
      refine ⟨'.' :: digits, by rw [Numeral.text, hfraction], ?_, Reader.maybe_of_eq_some ?_⟩
      · rintro _ ⟨rfl⟩
        rfl
      · rw [List.cons_append, Reader.bind_of_eq_some (Reader.char_cons _ _)]
        exact Reader.many_append hdigits fun c hc => (hrest c hc).1

/-- A number without a suffix is a decimal of the same digits. -/
theorem ofText?_write (hsuffix : number.suffix = none) :
    Decimal.ofText? number.write = some number.decimal := by
  obtain ⟨hne, hdigits⟩ := number.numeral.whole_digits
  obtain ⟨tail, htail, hnodigit, hfraction⟩ :=
    maybe_fraction number.numeral number.endsNumber_exponentText
  have hempty : number.numeral.whole.isEmpty = false := by simpa using hne
  rw [Decimal.ofText?, Reader.whole_eq_some_iff, Decimal.reader, write, hsuffix, htail,
    Option.toList_none, List.append_nil, List.append_assoc,
    Reader.bind_of_eq_some (sign_digits number.isSign number.numeral.whole_digits),
    Reader.bind_of_eq_some (Reader.many_append hdigits hnodigit), Reader.bind_of_eq_some hfraction]
  simp only [hempty, Bool.false_and, Bool.false_eq_true, if_false]
  exact Reader.bind_of_eq_some number.exponentPart_exponentText _

/-- An integer without a suffix is an integer constant of the same value, or it is too large. -/
theorem integer_ofText?_write (hfraction : number.numeral.fraction = none)
    (hexponent : number.exponent = none) (hsuffix : number.suffix = none) :
    Integer.ofText? number.write = some number.integer := by
  obtain ⟨hne, hdigits⟩ := number.numeral.whole_digits
  have hvalue : Integer.ofText?.value? number.numeral.whole =
      some (Text.natOfDigits number.numeral.whole) :=
    if_pos ⟨hne, List.all_eq_true.2 hdigits⟩
  have hwrite : number.write = number.sign.toList ++ number.numeral.whole := by
    simp [write, exponentText, Numeral.text, hfraction, hexponent, hsuffix]
  -- The reader of integers looks at the first character only to find out about a sign.
  rw [hwrite, integer, isNegative]
  cases hsign : number.sign with
  | some sign =>
      rcases number.isSign sign hsign with rfl | rfl
      · simp [Integer.ofText?, hvalue]
      · simp [Integer.ofText?, hvalue]
  | none =>
      have hplain : ∀ c ∈ number.numeral.whole.head?, (c = '+' || c = '-') = false := fun c hc =>
        Text.isSign_of_isDigit (hdigits c (List.mem_of_mem_head? hc))
      rw [Option.toList_none, List.nil_append, Integer.ofText?.eq_def]
      split
      · rename_i digits hwhole
        exact absurd (hplain '-' (by rw [hwhole]; rfl)) (by decide)
      · rename_i digits hwhole
        exact absurd (hplain '+' (by rw [hwhole]; rfl)) (by decide)
      · simp [hvalue]

end NumberText

end Literal
end ResourcePaths
