import ResourcePaths.Calendar.TimeOfDay

/-!
# Instants with an offset

A date and a time of day at a place whose clocks differ from universal time by an offset.
-/

namespace ResourcePaths

/-- A moment, and the offset of the clock it was read from. -/
structure Instant where
  /-- The seconds of universal time since the epoch. -/
  timestamp : Int
  /-- The nanoseconds of the second, with the leap second counted as in a time of day. -/
  nanos : Nat
  /-- The seconds by which the clock is ahead of universal time. -/
  offset : Int
  deriving DecidableEq, Repr

namespace Instant

/-- The epoch, at universal time. -/
def epoch : Instant := ⟨0, 0, 0⟩

/-- The moment at which a clock with this offset shows a date and a time.  The date at
universal time has to lie within the calendar, too. -/
def ofLocal? (date : Date) (time : TimeOfDay) (offset : Int) : Option Instant :=
  let timestamp := date.number * 86400 + time.seconds - offset
  let day := timestamp / 86400
  if -86400 < offset ∧ offset < 86400 ∧ Date.firstNumber ≤ day ∧ day ≤ Date.lastNumber then
    some ⟨timestamp, time.nanos, offset⟩
  else none

/-- The sign of an offset: whether it is a minus, for which `−` may stand. -/
def offsetSign : Reader Bool := do
  let sign ← Reader.satisfying fun c => c = '+' || c = '-' || c = '\u2212'
  pure (sign ≠ '+')

/-- An offset in hours and minutes of two digits each, with `separator` between them. -/
def offsetReader (separator : Reader Unit) : Reader Int := do
  let behind ← offsetSign
  let hours ← Calendar.field 2 2
  separator
  let minutes ← Calendar.field 2 2
  if 60 ≤ minutes then failure
  let seconds : Int := hours * 3600 + minutes * 60
  pure (if behind then -seconds else seconds)

/-- The offset of the strict form: `Z` of either case, or hours and minutes with a colon
between them, below a day. -/
def strictOffset : Reader Int :=
  Reader.or
    (do
      let _ ← Reader.satisfying fun c => c = 'Z' || c = 'z'
      pure 0)
    (do
      let offset ← offsetReader (do let _ ← Reader.char ':'; pure ())
      if offset < -86340 || 86340 < offset then failure
      pure offset)

/-- The strict form: every field of full width, seconds given. -/
def strictReader : Reader Instant := do
  let year ← Calendar.field 4 4
  let _ ← Reader.char '-'
  let month ← Calendar.field 2 2
  let _ ← Reader.char '-'
  let day ← Calendar.field 2 2
  let _ ← Reader.satisfying fun c => c = 'T' || c = 't' || c = ' '
  let hour ← Calendar.field 2 2
  let _ ← Reader.char ':'
  let minute ← Calendar.field 2 2
  let _ ← Reader.char ':'
  let second ← Calendar.field 2 2
  let nanos ← Calendar.maybeFraction
  let offset ← strictOffset
  match Date.ofNumbers? year month day, TimeOfDay.ofNumbers? hour minute second nanos with
  | some date, some time =>
    match ofLocal? date time offset with
    | some instant => pure instant
    | none => failure
  | _, _ => failure

/-- The form without seconds: loose fields, and colons or blanks inside the offset. -/
def looseReader : Reader Instant := do
  let date ← Date.reader
  let _ ← Reader.char 'T'
  let time ← TimeOfDay.shortReader
  Reader.skipBlanks
  let offset ← offsetReader (do
    let _ ← Reader.many fun c => c = ':' || Text.isBlank c
    pure ())
  match ofLocal? date time offset with
  | some instant => pure instant
  | none => failure

/-- The text with a `Z` at its end written as an offset. -/
def withOffset (text : List Char) : List Char :=
  match Text.dropBack? 'Z' text with
  | some rest => rest ++ "+00:00".toList
  | none => text

/-- The instant that a text writes, in the strict form or in the form without seconds. -/
def ofText? (text : List Char) : Option Instant :=
  let text := withOffset text
  (Reader.whole strictReader text).or (Reader.whole looseReader text)

end Instant
end ResourcePaths
