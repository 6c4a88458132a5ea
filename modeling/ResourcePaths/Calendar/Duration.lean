import ResourcePaths.Number.Double

/-!
# Durations

Lengths of time in days, hours, minutes and seconds.  The parts are read, scaled and added as
doubles, part by part, and only the sum is turned into whole nanoseconds.
-/

namespace ResourcePaths

/-- A length of time, of either direction. -/
structure Duration where
  /-- The length in nanoseconds. -/
  nanos : Int
  deriving DecidableEq, Repr

namespace Duration

/-- No time. -/
def zero : Duration := ⟨0⟩

/-- The parts of a duration, as far as they are given. -/
structure Parts where
  /-- Whether the duration has a minus sign. -/
  negative : Bool
  days : Option Decimal
  hours : Option Decimal
  minutes : Option Decimal
  seconds : Option Decimal
  deriving DecidableEq, Repr

/-- A number in front of its unit: digits, and perhaps a point and digits. -/
def part (unit : Char) : Reader Decimal := do
  let whole ← Reader.many1 Char.isDigit
  let fraction ← Reader.maybe do
    let _ ← Reader.char '.'
    Reader.many1 Char.isDigit
  let _ ← Reader.char unit
  pure (Decimal.ofDigits false whole (fraction.getD []) 0)

/-- The parts of a day, in their order. -/
def clockParts : Reader (Option Decimal × Option Decimal × Option Decimal) := do
  let _ ← Reader.char 'T'
  let hours ← Reader.maybe (part 'H')
  let minutes ← Reader.maybe (part 'M')
  let seconds ← Reader.maybe (part 'S')
  pure (hours, minutes, seconds)

/-- A duration: there is a part behind `P`, and one behind `T` where `T` is written. -/
def partsReader : Reader Parts := do
  let sign ← Reader.maybe (Reader.char '-')
  let _ ← Reader.char 'P'
  let days ← Reader.maybe (part 'D')
  let clock ← Reader.maybe clockParts
  match clock with
  | some (none, none, none) => failure
  | some (hours, minutes, seconds) => pure ⟨sign.isSome, days, hours, minutes, seconds⟩
  | none =>
    if days.isNone then failure
    pure ⟨sign.isSome, days, none, none, none⟩

/-- A sum with one more part, scaled to seconds; nothing once a number is too large. -/
def accumulate (total : Option Dyadic) (part : Option Decimal × Nat) : Option Dyadic :=
  match total, part with
  | none, _ => none
  | some total, (none, _) => some total
  | some total, (some value, scale) =>
    let scaled := value.magnitude.scale scale
    let sum := total.add scaled
    if value.magnitude.fits && scaled.fits && sum.fits then some sum else none

/-- The length of the parts in seconds, unless a number is too large for a double. -/
def Parts.total? (parts : Parts) : Option Dyadic :=
  [(parts.days, 86400), (parts.hours, 3600), (parts.minutes, 60), (parts.seconds, 1)].foldl
    accumulate (some Dyadic.zero)

/-- The duration with these parts, if its nanoseconds are below `2 ^ 63`. -/
def ofParts? (parts : Parts) : Option Duration :=
  match parts.total? with
  | none => none
  | some total =>
    let nanos := (total.scale 1000000000).toNearestNat
    if nanos < Nat.pow 2 63 then some ⟨if parts.negative then -nanos else nanos⟩ else none

/-- The duration that a text writes. -/
def ofText? (text : List Char) : Option Duration :=
  (Reader.whole partsReader text).bind ofParts?

end Duration
end ResourcePaths
