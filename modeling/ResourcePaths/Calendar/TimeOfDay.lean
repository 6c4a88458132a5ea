import ResourcePaths.Calendar.Date

/-!
# Times of day

A time of day counts seconds from midnight and nanoseconds within the second.  A leap second
is the last second of its minute with a nanosecond count of a thousand million or more.
-/

namespace ResourcePaths

namespace Calendar

/-- The nanoseconds of a second. -/
def nanosPerSecond : Nat := 1000000000

/-- Whether the counts make a time: below a day, and with a leap second only at the end of
a minute. -/
def isTime (seconds nanos : Nat) : Bool :=
  seconds < 86400 && nanos < 2 * nanosPerSecond &&
    (nanos < nanosPerSecond || seconds % 60 = 59)

/-- The digits behind the point of a second: nine of them count, more are skipped. -/
def fraction : Reader Nat := do
  let digits ← Reader.between 1 9 Char.isDigit
  let _ ← Reader.many Char.isDigit
  pure (Text.natOfDigits digits * Nat.pow 10 (9 - digits.length))

/-- The digits behind a point, where there is one. -/
def maybeFraction : Reader Nat := do
  let point ← Reader.maybe (Reader.char '.')
  match point with
  | none => pure 0
  | some _ => fraction

end Calendar

/-- A time of day. -/
structure TimeOfDay where
  /-- The seconds since midnight. -/
  seconds : Nat
  /-- The nanoseconds of the second. -/
  nanos : Nat
  /-- The time exists. -/
  isTime : Calendar.isTime seconds nanos = true
  deriving DecidableEq, Repr

namespace TimeOfDay

/-- The time with these counts, if there is one. -/
def ofCounts? (seconds nanos : Nat) : Option TimeOfDay :=
  if h : Calendar.isTime seconds nanos = true then some ⟨seconds, nanos, h⟩ else none

def midnight : TimeOfDay := ⟨0, 0, by decide⟩

/-- The time with these numbers, if there is one.  Second sixty is the leap second. -/
def ofNumbers? (hour minute second nanos : Nat) : Option TimeOfDay :=
  if hour < 24 ∧ minute < 60 ∧ second ≤ 60 ∧ nanos < Calendar.nanosPerSecond then
    if second = 60 then
      ofCounts? (3600 * hour + 60 * minute + 59) (Calendar.nanosPerSecond + nanos)
    else
      ofCounts? (3600 * hour + 60 * minute + second) nanos
  else none

/-- The form with seconds, and perhaps a fraction of them. -/
def longReader : Reader TimeOfDay := do
  let hour ← Calendar.looseField
  let _ ← Reader.char ':'
  let minute ← Calendar.looseField
  let _ ← Reader.char ':'
  let second ← Calendar.looseField
  let nanos ← Calendar.maybeFraction
  match ofNumbers? hour minute second nanos with
  | some time => pure time
  | none => failure

/-- The form without seconds. -/
def shortReader : Reader TimeOfDay := do
  let hour ← Calendar.looseField
  let _ ← Reader.char ':'
  let minute ← Calendar.looseField
  match ofNumbers? hour minute 0 0 with
  | some time => pure time
  | none => failure

/-- The time that a text writes, with seconds or without. -/
def ofText? (text : List Char) : Option TimeOfDay :=
  (Reader.whole longReader text).or (Reader.whole shortReader text)

end TimeOfDay
end ResourcePaths
