import ResourcePaths.Json.Basic
import ResourcePaths.Number.Double

/-!
# Numbers in JSON

An integer of sixty-four bits is kept as it is.  Of any other number only the text is kept, but
it has to be in range.  Its magnitude is taken in two roundings: the leading digits, as many of
them as sixty-four bits hold, are rounded to a double, and so is the power of ten behind them;
the number is in range when the product, rounded once more, is.  Near the greatest double this
differs from rounding the number itself.
-/

namespace ResourcePaths
namespace Json

/-- The parts of a number. -/
structure NumberParts where
  /-- Whether there is a minus sign. -/
  negative : Bool
  /-- The digits in front of the point. -/
  whole : List Char
  /-- The digits behind the point. -/
  fraction : List Char
  /-- The exponent, where one is written. -/
  exponent : Option Int

namespace NumberParts

/-- The integer that a value and digits behind it write, up to the first digit that does not fit
into sixty-four bits, and the digits from there on. -/
def gather (value : Nat) : List Char → Nat × List Char
  | [] => (value, [])
  | c :: rest =>
    let next := 10 * value + (c.toNat - 48)
    if next < Nat.pow 2 64 then gather next rest else (value, c :: rest)

/-- The leading digits as an integer, and the power of ten that they stand for.  A digit left out
in front of the point makes the power greater, one taken from behind it makes it smaller. -/
def leading (parts : NumberParts) : Nat × Int :=
  let (front, left) := gather 0 parts.whole
  let (value, ignored) := gather front parts.fraction
  let taken := parts.fraction.length - ignored.length
  (value, parts.exponent.getD 0 + left.length - taken)

/-- The greatest power of ten that is a double. -/
def greatestPower : Int := 308

/-- Whether the number is in range. -/
def inRange (parts : NumberParts) : Bool :=
  let (value, power) := parts.leading
  value = 0 || power < 0 ||
    power ≤ greatestPower &&
      ((Dyadic.round value 1).mul (Dyadic.round (Nat.pow 10 power.toNat) 1)).fits

/-- Whether the number is written without a point and without an exponent. -/
def isWhole (parts : NumberParts) : Bool :=
  parts.fraction.isEmpty && parts.exponent.isNone

/-- The integer that is written, when sixty-four bits hold it.  Zero with a minus sign is none. -/
def integer? (parts : NumberParts) : Option Int :=
  let value := Text.natOfDigits parts.whole
  if !parts.isWhole then none
  else if !parts.negative && value < Nat.pow 2 64 then some value
  else if parts.negative && 0 < value && value ≤ Nat.pow 2 63 then some (-(value : Int))
  else none

/-- The value of a number with its text.  A number out of range can only be skipped. -/
def toJson (parts : NumberParts) (text : List Char) : Json :=
  match parts.integer? with
  | some value => integer value
  | none => if parts.inRange then decimal (String.ofList text) else flaw .malformed none

end NumberParts
end Json
end ResourcePaths
