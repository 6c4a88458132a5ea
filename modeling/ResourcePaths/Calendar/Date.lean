import ResourcePaths.Text.Words
import ResourcePaths.Text.Reader

/-!
# Dates

Days of the proleptic Gregorian calendar, and the field readers that the forms of dates
and times are made of.
-/

namespace ResourcePaths

namespace Calendar

def firstYear : Int := -262143

def lastYear : Int := 262142

/-- Whether a year has a 29th of February. -/
def isLeap (year : Int) : Bool :=
  year % 4 = 0 && (year % 100 ≠ 0 || year % 400 = 0)

/-- The number of days of a month; zero where there is no such month. -/
def daysInMonth (year : Int) (month : Nat) : Nat :=
  match month with
  | 1 | 3 | 5 | 7 | 8 | 10 | 12 => 31
  | 4 | 6 | 9 | 11 => 30
  | 2 => if isLeap year then 29 else 28
  | _ => 0

/-- Whether there is a day of this year, month and number. -/
def isDay (year : Int) (month day : Nat) : Bool :=
  firstYear ≤ year && year ≤ lastYear && 1 ≤ day && day ≤ daysInMonth year month

/-- The days from the first of January 1970 to a day.  Years are counted from the first of
March, so that the day of the year does not depend on leap years. -/
def dayNumber (year : Int) (month day : Nat) : Int :=
  let shifted := if month ≤ 2 then year - 1 else year
  let era := shifted / 400
  let yearOfEra := shifted % 400
  let dayOfYear : Int := (153 * ((month + 9) % 12) + 2) / 5 + day - 1
  era * 146097 + yearOfEra * 365 + yearOfEra / 4 - yearOfEra / 100 + dayOfYear - 719468

/-- A number of at least `least` and at most `most` digits. -/
def field (least most : Nat) : Reader Nat := do
  let digits ← Reader.between least most Char.isDigit
  pure (Text.natOfDigits digits)

/-- A number of one or two digits behind any blanks. -/
def looseField : Reader Nat := do
  Reader.skipBlanks
  field 1 2

/-- A year behind any blanks: one to four digits, or any number of them behind a sign. -/
def looseYear : Reader Int := do
  Reader.skipBlanks
  let sign ← Reader.maybe (Reader.satisfying fun c => c = '+' || c = '-')
  match sign with
  | none => do
    let year ← field 1 4
    pure year
  | some sign => do
    let digits ← Reader.many1 Char.isDigit
    let year : Int := Text.natOfDigits digits
    pure (if sign = '-' then -year else year)

end Calendar

/-- A day of the calendar. -/
structure Date where
  /-- The year; zero is the year before year one. -/
  year : Int
  /-- The month, from one. -/
  month : Nat
  /-- The day of the month, from one. -/
  day : Nat
  /-- The day exists. -/
  isDay : Calendar.isDay year month day = true
  deriving DecidableEq, Repr

namespace Date

/-- The day with these numbers, if there is one. -/
def ofNumbers? (year : Int) (month day : Nat) : Option Date :=
  if h : Calendar.isDay year month day = true then some ⟨year, month, day, h⟩ else none

/-- The first of January 1970. -/
def epoch : Date := ⟨1970, 1, 1, by decide⟩

/-- The days from the epoch. -/
def number (date : Date) : Int :=
  Calendar.dayNumber date.year date.month date.day

/-- The day number of the first day. -/
def firstNumber : Int := Calendar.dayNumber Calendar.firstYear 1 1

/-- The day number of the last day. -/
def lastNumber : Int := Calendar.dayNumber Calendar.lastYear 12 31

/-- Year, month and day with hyphens between, each in its loose form. -/
def reader : Reader Date := do
  let year ← Calendar.looseYear
  let _ ← Reader.char '-'
  let month ← Calendar.looseField
  let _ ← Reader.char '-'
  let day ← Calendar.looseField
  match ofNumbers? year month day with
  | some date => pure date
  | none => failure

/-- The date that a text writes. -/
def ofText? (text : List Char) : Option Date :=
  Reader.whole reader text

end Date
end ResourcePaths
