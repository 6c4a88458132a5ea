import ResourcePaths.Calendar.Duration
import ResourcePaths.Proofs.Number.Closeness
import ResourcePaths.Proofs.Text.Digits
import ResourcePaths.Proofs.Text.Reading

/-!
# Durations as they are written

A duration is written with up to four numbers, each in front of its unit, and with a `T` in front of
those that are no days.  There is a number at least, and one behind `T` where `T` is written.  The
numbers say exactly how long the duration is.  The reader takes them one after the other: a number
whose unit is not the one asked for is left alone.  It takes no other text.
-/

namespace ResourcePaths

namespace Duration

/-! ### How durations are written -/

/-- A number in front of a unit: digits, and perhaps a point and digits. -/
structure Numeral where
  whole : List Char
  fraction : Option (List Char)
  whole_digits : whole ≠ [] ∧ ∀ c ∈ whole, c.isDigit = true
  fraction_digits : ∀ digits ∈ fraction, digits ≠ [] ∧ ∀ c ∈ digits, c.isDigit = true

namespace Numeral

def text (numeral : Numeral) : List Char :=
  numeral.whole ++
    match numeral.fraction with
    | some digits => '.' :: digits
    | none => []

/-- The digits behind the point. -/
def decimals (numeral : Numeral) : List Char := numeral.fraction.getD []

/-- What the number says. -/
def value (numeral : Numeral) : ℚ :=
  Text.natOfDigits numeral.whole + Text.natOfDigits numeral.decimals / 10 ^ numeral.decimals.length

/-- What is read of the number. -/
def decimal (numeral : Numeral) : Decimal :=
  .ofDigits false numeral.whole numeral.decimals 0

theorem exponent_decimal_le (numeral : Numeral) : numeral.decimal.exponent ≤ 0 := by
  show (0 : ℤ) - numeral.decimals.length ≤ 0
  omega

theorem value_decimal (numeral : Numeral) : numeral.decimal.value = numeral.value := by
  show ((Text.natOfDigits (numeral.whole ++ numeral.decimals) : ℕ) : ℚ) *
    10 ^ ((0 : ℤ) - numeral.decimals.length) = _
  rw [Text.natOfDigits_append, zero_sub, zpow_neg, zpow_natCast, value]
  push_cast
  field_simp

end Numeral

/-- The numbers behind `T`, one at least. -/
structure Clock where
  hours : Option Numeral
  minutes : Option Numeral
  seconds : Option Numeral
  given : hours.isSome ∨ minutes.isSome ∨ seconds.isSome

/-- A duration as it is written: a number of days, or numbers behind `T`, or both. -/
structure Form where
  negative : Bool
  days : Option Numeral
  clock : Option Clock
  given : days.isSome ∨ clock.isSome

/-- A number with its unit, where it is given. -/
def component (unit : Char) : Option Numeral → List Char
  | some numeral => numeral.text ++ [unit]
  | none => []

def Clock.text (clock : Clock) : List Char :=
  'T' :: (component 'H' clock.hours ++ (component 'M' clock.minutes ++ component 'S' clock.seconds))

/-- The numbers behind `T`, where there are any. -/
def clockText : Option Clock → List Char
  | some clock => clock.text
  | none => []

namespace Form

def text (form : Form) : List Char :=
  (if form.negative then ['-'] else []) ++
    'P' :: (component 'D' form.days ++ clockText form.clock)

/-- The numbers, each with the seconds of its unit. -/
def components (form : Form) : List (Option Numeral × ℕ) :=
  [(form.days, 86400), (form.clock.bind Clock.hours, 3600), (form.clock.bind Clock.minutes, 60),
    (form.clock.bind Clock.seconds, 1)]

/-- How many seconds the duration is long, exactly. -/
def seconds (form : Form) : ℚ :=
  (form.components.map fun component =>
    (component.1.elim 0 Numeral.value) * (component.2 : ℚ)).sum

/-- Whether the numbers are whole. -/
def IsWhole (form : Form) : Prop :=
  ∀ component ∈ form.components, ∀ numeral ∈ component.1, ∃ m : ℕ, numeral.value = m

/-- So many nanoseconds with the sign of the duration. -/
def signed (form : Form) (nanos : ℕ) : Duration :=
  ⟨if form.negative then -nanos else nanos⟩

/-- What is read of the duration. -/
def parts (form : Form) : Parts :=
  ⟨form.negative, form.days.map Numeral.decimal,
    (form.clock.bind Clock.hours).map Numeral.decimal,
    (form.clock.bind Clock.minutes).map Numeral.decimal,
    (form.clock.bind Clock.seconds).map Numeral.decimal⟩

end Form

/-! ### Reading -/

section Reading

variable {unit other : Char} {back : List Char}

/-- Whether a number ends in front of a character. -/
def EndsNumber (c : Char) : Prop := c.isDigit = false ∧ c ≠ '.'

/-- A number is read up to its unit. -/
theorem part_text_append (numeral : Numeral) (unit : Char) (hback : ∀ c ∈ back.head?, EndsNumber c) :
    part unit (numeral.text ++ back) =
      (Reader.char unit >>= fun _ => pure numeral.decimal) back := by
  obtain ⟨hne, hdigits⟩ := numeral.whole_digits
  have hnodigit : ∀ c ∈ back.head?, c.isDigit = false := fun c hc => (hback c hc).1
  rw [part, Numeral.text, Numeral.decimal, Numeral.decimals, List.append_assoc]
  cases hfraction : numeral.fraction with
  | none =>
      have hnopoint : Reader.char '.' back = none :=
        Reader.char_eq_none fun hpoint => (hback '.' hpoint).2 rfl
      rw [List.nil_append, Reader.bind_of_eq_some (Reader.many1_append hne hdigits hnodigit),
        Reader.bind_of_eq_some (Reader.maybe_of_eq_none (Reader.bind_of_eq_none hnopoint _))]
  | some digits =>
      obtain ⟨hne', hdigits'⟩ := numeral.fraction_digits digits hfraction
      have hpoint : ∀ c ∈ (('.' :: digits) ++ back).head?, c.isDigit = false := by
        rintro _ ⟨rfl⟩
        rfl
      have hread : (Reader.char '.' >>= fun _ => Reader.many1 Char.isDigit)
          (('.' :: digits) ++ back) = some (digits, back) := by
        rw [List.cons_append, Reader.bind_of_eq_some (Reader.char_cons _ _)]
        exact Reader.many1_append hne' hdigits' hnodigit
      rw [Reader.bind_of_eq_some (Reader.many1_append hne hdigits hpoint),
        Reader.bind_of_eq_some (Reader.maybe_of_eq_some hread)]

theorem part_text_unit (numeral : Numeral) (hunit : EndsNumber unit) :
    part unit (numeral.text ++ unit :: back) = some (numeral.decimal, back) := by
  rw [part_text_append numeral unit (by rintro _ ⟨rfl⟩; exact hunit),
    Reader.bind_of_eq_some (Reader.char_cons _ _), Reader.pure_apply]

/-- The number of another unit is left alone. -/
theorem part_text_other (numeral : Numeral) (hother : EndsNumber other) (hne : other ≠ unit) :
    part unit (numeral.text ++ other :: back) = none := by
  rw [part_text_append numeral unit (by rintro _ ⟨rfl⟩; exact hother)]
  exact Reader.bind_of_eq_none (Reader.char_eq_none (by simpa using hne)) _

theorem part_eq_none (h : ∀ c ∈ back.head?, c.isDigit = false) : part unit back = none :=
  Reader.bind_of_eq_none (Reader.many1_eq_none h) _

theorem part_component_other (numeral? : Option Numeral) (hother : EndsNumber other)
    (hne : other ≠ unit) (hback : part unit back = none) :
    part unit (component other numeral? ++ back) = none := by
  cases numeral? with
  | none => exact hback
  | some numeral =>
      rw [component, List.append_assoc]
      exact part_text_other numeral hother hne

/-- A number is read where it is given, and nothing where what follows has another unit. -/
theorem maybe_part_component (numeral? : Option Numeral) (hunit : EndsNumber unit)
    (hback : part unit back = none) :
    Reader.maybe (part unit) (component unit numeral? ++ back) =
      some (numeral?.map Numeral.decimal, back) := by
  cases numeral? with
  | none => exact Reader.maybe_of_eq_none hback
  | some numeral =>
      rw [component, List.append_assoc]
      exact Reader.maybe_of_eq_some (part_text_unit numeral hunit)

theorem clockParts_text (clock : Clock) :
    clockParts clock.text = some
      ((clock.hours.map Numeral.decimal, clock.minutes.map Numeral.decimal,
        clock.seconds.map Numeral.decimal), []) := by
  have hM : EndsNumber 'M' := ⟨by decide, by decide⟩
  have hS : EndsNumber 'S' := ⟨by decide, by decide⟩
  have hend (unit : Char) : part unit [] = none := part_eq_none (by simp)
  have hseconds : Reader.maybe (part 'S') (component 'S' clock.seconds) =
      some (clock.seconds.map Numeral.decimal, []) := by
    simpa using maybe_part_component clock.seconds hS (hend 'S')
  have hnoseconds (unit : Char) (hne : 'S' ≠ unit) :
      part unit (component 'S' clock.seconds) = none := by
    simpa using part_component_other clock.seconds hS hne (hend unit)
  rw [clockParts, Clock.text, Reader.bind_of_eq_some (Reader.char_cons _ _),
    Reader.bind_of_eq_some (maybe_part_component clock.hours ⟨by decide, by decide⟩
      (part_component_other clock.minutes hM (by decide) (hnoseconds 'H' (by decide)))),
    Reader.bind_of_eq_some
      (maybe_part_component clock.minutes hM (hnoseconds 'M' (by decide))),
    Reader.bind_of_eq_some hseconds]
  rfl

theorem maybe_sign (negative : Bool) (rest : List Char) :
    Reader.maybe (Reader.char '-') ((if negative then ['-'] else []) ++ 'P' :: rest) =
      some (if negative then some '-' else none, 'P' :: rest) := by
  cases negative with
  | true => exact Reader.maybe_of_eq_some (Reader.char_cons _ _)
  | false => exact Reader.maybe_of_eq_none (Reader.char_eq_none (by simp))

/-- A duration is read as it is written. -/
theorem partsReader_text (form : Form) : partsReader form.text = some (form.parts, []) := by
  have hclock : part 'D' (clockText form.clock) = none := by
    cases form.clock with
    | none => exact part_eq_none (by simp [clockText])
    | some clock => exact part_eq_none (by rintro _ ⟨rfl⟩; rfl)
  have hsign : (if form.negative then some '-' else none).isSome = form.negative := by
    cases form.negative <;> rfl
  rw [partsReader, Form.text, Reader.bind_of_eq_some (maybe_sign _ _),
    Reader.bind_of_eq_some (Reader.char_cons _ _), Reader.bind_of_eq_some
      (maybe_part_component form.days ⟨by decide, by decide⟩ hclock)]
  simp only [hsign]
  obtain ⟨negative, days, clock, hgiven⟩ := form
  cases clock with
  | none =>
      have hnone : clockParts (clockText none) = none := rfl
      obtain ⟨numeral, rfl⟩ := Option.isSome_iff_exists.1 (hgiven.resolve_right (by simp))
      rw [Reader.bind_of_eq_some (Reader.maybe_of_eq_none hnone)]
      rfl
  | some clock =>
      have hread : clockParts (clockText (some clock)) = _ := clockParts_text clock
      rw [Reader.bind_of_eq_some (Reader.maybe_of_eq_some hread)]
      -- The reader refuses a clock without numbers, and there is no such clock.
      obtain ⟨hours, minutes, seconds, hgiven'⟩ := clock
      rcases hgiven' with h | h | h
      · obtain ⟨numeral, rfl⟩ := Option.isSome_iff_exists.1 h
        rfl
      · obtain ⟨numeral, rfl⟩ := Option.isSome_iff_exists.1 h
        cases hours <;> rfl
      · obtain ⟨numeral, rfl⟩ := Option.isSome_iff_exists.1 h
        cases hours <;> cases minutes <;> rfl

/-- Digits and what is taken for a fraction behind them make a number. -/
theorem exists_numeral {whole text : List Char} {fraction : Option (List Char)}
    (hwhole : whole ≠ [] ∧ ∀ c ∈ whole, c.isDigit = true)
    (h : Reader.maybe (Reader.char '.' >>= fun _ => Reader.many1 Char.isDigit) text =
      some (fraction, back)) :
    ∃ numeral : Numeral, numeral.whole = whole ∧ numeral.fraction = fraction ∧
      whole ++ text = numeral.text ++ back := by
  rcases Reader.maybe_eq_some_iff.1 h with ⟨digits, rfl, hread⟩ | ⟨rfl, rfl, -⟩
  · simp only [Reader.bind_eq_some_iff, Reader.many1_eq_some_iff, Reader.char_eq_some_iff] at hread
    obtain ⟨_, _, ⟨rfl, -⟩, rfl, hne, hdigits, -⟩ := hread
    refine ⟨⟨whole, some digits, hwhole, ?_⟩, rfl, rfl, ?_⟩
    · rintro _ ⟨rfl⟩
      exact ⟨hne, hdigits⟩
    · simp [Numeral.text]
  · exact ⟨⟨whole, none, hwhole, by simp⟩, rfl, rfl, by simp [Numeral.text]⟩

/-- What is taken for a number with its unit is one. -/
theorem part_eq_some {text : List Char} {value : Decimal} (h : part unit text = some (value, back)) :
    ∃ numeral : Numeral, text = numeral.text ++ unit :: back ∧ value = numeral.decimal := by
  simp only [part, Reader.bind_eq_some_iff, Reader.many1_eq_some_iff, Reader.char_eq_some_iff,
    Reader.pure_eq_some_iff] at h
  obtain ⟨whole, _, ⟨rfl, hne, hdigits, -⟩, fraction, _, hfraction, _, _, ⟨rfl, -⟩, rfl, rfl⟩ := h
  obtain ⟨numeral, rfl, rfl, htext⟩ := exists_numeral ⟨hne, hdigits⟩ hfraction
  exact ⟨numeral, htext, rfl⟩

theorem maybe_part_eq_some {text : List Char} {value? : Option Decimal}
    (h : Reader.maybe (part unit) text = some (value?, back)) :
    ∃ numeral? : Option Numeral,
      text = component unit numeral? ++ back ∧ value? = numeral?.map Numeral.decimal := by
  rcases Reader.maybe_eq_some_iff.1 h with ⟨value, rfl, hread⟩ | ⟨rfl, rfl, -⟩
  · obtain ⟨numeral, rfl, rfl⟩ := part_eq_some hread
    exact ⟨some numeral, by simp [component], rfl⟩
  · exact ⟨none, rfl, rfl⟩

/-- Behind `T` there may be no number at all, as far as this reader goes. -/
theorem clockParts_eq_some {text : List Char} {hours minutes seconds : Option Decimal}
    (h : clockParts text = some ((hours, minutes, seconds), back)) :
    ∃ hours? minutes? seconds? : Option Numeral,
      text = 'T' :: (component 'H' hours? ++ (component 'M' minutes? ++ component 'S' seconds?)) ++
        back ∧
      hours = hours?.map Numeral.decimal ∧ minutes = minutes?.map Numeral.decimal ∧
        seconds = seconds?.map Numeral.decimal := by
  simp only [clockParts, Reader.bind_eq_some_iff, Reader.char_eq_some_iff,
    Reader.pure_eq_some_iff, Prod.mk.injEq] at h
  obtain ⟨_, _, ⟨rfl, -⟩, _, _, hhours, _, _, hminutes, _, _, hseconds, ⟨rfl, rfl, rfl⟩, rfl⟩ := h
  obtain ⟨hours?, rfl, rfl⟩ := maybe_part_eq_some hhours
  obtain ⟨minutes?, rfl, rfl⟩ := maybe_part_eq_some hminutes
  obtain ⟨seconds?, rfl, rfl⟩ := maybe_part_eq_some hseconds
  exact ⟨hours?, minutes?, seconds?, by simp, rfl, rfl, rfl⟩

theorem maybe_sign_eq_some {text rest : List Char} {sign : Option Char}
    (h : Reader.maybe (Reader.char '-') text = some (sign, rest)) :
    ∃ negative : Bool, text = (if negative then ['-'] else []) ++ rest := by
  rcases Reader.maybe_eq_some_iff.1 h with ⟨_, -, hminus⟩ | ⟨-, rfl, -⟩
  · exact ⟨true, (Reader.char_eq_some_iff.1 hminus).1⟩
  · exact ⟨false, rfl⟩

/-- No other text is read whole. -/
theorem exists_form_of_partsReader {text : List Char} {parts : Parts}
    (h : partsReader text = some (parts, [])) : ∃ form : Form, text = form.text := by
  simp only [partsReader, Reader.bind_eq_some_iff, Reader.char_eq_some_iff] at h
  obtain ⟨sign, _, hsign, _, rest, ⟨rfl, -⟩, _, _, hdays, clock, back, hclock, hend⟩ := h
  obtain ⟨negative, rfl⟩ := maybe_sign_eq_some hsign
  obtain ⟨days, rfl, rfl⟩ := maybe_part_eq_some hdays
  rcases Reader.maybe_eq_some_iff.1 hclock with ⟨⟨hours, minutes, seconds⟩, rfl, hread⟩ | ⟨rfl, rfl, -⟩
  · obtain ⟨hours, minutes, seconds, rfl, rfl, rfl, rfl⟩ := clockParts_eq_some hread
    by_cases hgiven : hours.isSome ∨ minutes.isSome ∨ seconds.isSome
    · have hback : back = [] := by
        -- The reader goes on in one way, whichever of the numbers is given.
        cases hours <;> cases minutes <;> cases seconds <;> simp_all
      subst hback
      exact ⟨⟨negative, days, some ⟨hours, minutes, seconds, hgiven⟩, .inr rfl⟩,
        by simp [Form.text, clockText, Clock.text]⟩
    · simp only [not_or, Bool.not_eq_true, Option.isSome_eq_false_iff,
        Option.isNone_iff_eq_none] at hgiven
      obtain ⟨rfl, rfl, rfl⟩ := hgiven
      contradiction
  · cases days with
    | none => contradiction
    | some numeral =>
        obtain ⟨-, rfl⟩ := Reader.pure_eq_some_iff.1 hend
        exact ⟨⟨negative, some numeral, none, .inl rfl⟩, by simp [Form.text, clockText]⟩

theorem ofText?_text_eq (form : Form) : ofText? form.text = ofParts? form.parts := by
  rw [ofText?, Reader.whole_eq_some_iff.2 (partsReader_text form), Option.bind_some]

end Reading

end Duration
end ResourcePaths
