import ResourcePaths.Number.Dyadic
import ResourcePaths.Text.Reader

/-!
# Decimals and doubles

A decimal is what a text of digits says; a double is what is kept of it: the nearest
number in the IEEE 754 format of sixty-four bits.
-/

namespace ResourcePaths

/-- A double-precision number, as its sixty-four bits. -/
structure Double where
  /-- Sign, exponent and mantissa. -/
  bits : UInt64
  deriving DecidableEq, Repr

namespace Double

def infinityBits : Nat := 2047 * Nat.pow 2 52

def signBit : Nat := Nat.pow 2 63

/-- A number with a sign; one that does not fit is infinite. -/
def ofDyadic (negative : Bool) (x : Dyadic) : Double :=
  let magnitude :=
    if x.fits then (x.exponent - Dyadic.leastExponent).toNat * Nat.pow 2 52 + x.mantissa
    else infinityBits
  ⟨UInt64.ofNat (magnitude + if negative then signBit else 0)⟩

/-- Positive zero. -/
def zero : Double := ⟨0⟩

/-- Positive infinity. -/
def infinity : Double := ⟨UInt64.ofNat infinityBits⟩

/-- Negative infinity. -/
def negativeInfinity : Double := ⟨UInt64.ofNat (signBit + infinityBits)⟩

/-- The number that is no number. -/
def nan : Double := ⟨UInt64.ofNat (infinityBits + Nat.pow 2 51)⟩

/-- The bits less the sign. -/
def magnitude (x : Double) : Nat := x.bits.toNat % signBit

/-- Whether the number is neither infinite nor no number. -/
def isFinite (x : Double) : Bool := x.magnitude < infinityBits

/-- Whether the number is no number. -/
def isNan (x : Double) : Bool := infinityBits < x.magnitude

end Double

/-- The number `± coefficient * 10 ^ exponent`. -/
structure Decimal where
  /-- Whether the number has a minus sign. -/
  negative : Bool
  /-- The digits, as an integer. -/
  coefficient : Nat
  /-- The power of ten. -/
  exponent : Int
  deriving DecidableEq, Repr

namespace Decimal

/-- The number with these digits before and behind the point, times a power of ten. -/
def ofDigits (negative : Bool) (whole fraction : List Char) (exponent : Int) : Decimal :=
  ⟨negative, Text.natOfDigits (whole ++ fraction), exponent - fraction.length⟩

/-- The magnitude, rounded.  Numbers far outside the range of doubles are decided by their
exponent alone, since `10 ^ n` is at least `2 ^ (3 * n)`. -/
def magnitude (x : Decimal) : Dyadic :=
  if x.coefficient = 0 then Dyadic.zero
  else if 400 < x.exponent then Dyadic.tooLarge
  else if 3 * x.exponent + x.coefficient.log2 + 1 < -1100 then Dyadic.zero
  else
    Dyadic.round (x.coefficient * Nat.pow 10 x.exponent.toNat) (Nat.pow 10 (-x.exponent).toNat)

/-- The nearest double. -/
def toDouble (x : Decimal) : Double :=
  Double.ofDyadic x.negative x.magnitude

/-- A sign, where there is one: whether it is a minus. -/
def sign : Reader Bool := do
  let found ← Reader.maybe (Reader.satisfying fun c => c = '+' || c = '-')
  pure (found = some '-')

/-- An exponent behind its mark. -/
def exponentReader : Reader Int := do
  let _ ← Reader.satisfying fun c => c = 'e' || c = 'E'
  let negative ← sign
  let digits ← Reader.many1 Char.isDigit
  let value : Int := Text.natOfDigits digits
  pure (if negative then -value else value)

/-- The exponent, or zero where none is written. -/
def exponentPart : Reader Int := do
  let found ← Reader.maybe exponentReader
  pure (found.getD 0)

/-- A decimal as constants write it: digits are asked for on one side of the point only. -/
def reader : Reader Decimal := do
  let negative ← sign
  let whole ← Reader.many Char.isDigit
  let fraction ← Reader.maybe do
    let _ ← Reader.char '.'
    Reader.many Char.isDigit
  let fraction := fraction.getD []
  if whole.isEmpty && fraction.isEmpty then failure
  let exponent ← exponentPart
  pure (ofDigits negative whole fraction exponent)

/-- The decimal that the whole text writes. -/
def ofText? (text : List Char) : Option Decimal :=
  Reader.whole reader text

end Decimal
end ResourcePaths
