/-!
# Dyadic numbers

Numbers of the form `mantissa * 2 ^ exponent`, and the rounding of a quotient to the
nearest one that a double-precision number can hold.  Ties go to the even mantissa.
The rounding knows no upper bound: `fits` tells whether the result is small enough.
-/

namespace ResourcePaths

/-- The number `mantissa * 2 ^ exponent`. -/
structure Dyadic where
  /-- The factor in front of the power of two. -/
  mantissa : Nat
  /-- The power of two. -/
  exponent : Int
  deriving DecidableEq, Repr

namespace Dyadic

/-- The number of bits of a mantissa. -/
def precision : Nat := 53

def leastExponent : Int := -1074

/-- The greatest exponent of a number that is not infinite. -/
def greatestExponent : Int := 971

/-- The number zero. -/
def zero : Dyadic := ⟨0, leastExponent⟩

/-- The least number that is too large to be held. -/
def tooLarge : Dyadic := ⟨Nat.pow 2 52, greatestExponent + 1⟩

/-- The numerator of the number as a fraction of integers. -/
def num (x : Dyadic) : Nat := x.mantissa * Nat.pow 2 x.exponent.toNat

/-- The denominator of the number as a fraction of integers. -/
def den (x : Dyadic) : Nat := Nat.pow 2 (-x.exponent).toNat

/-- Whether the number is small enough to be held. -/
def fits (x : Dyadic) : Bool := x.exponent ≤ greatestExponent

/-- The integer nearest to `num / den`, a tie going to the even one. -/
def nearestEven (num den : Nat) : Nat :=
  let quotient := num / den
  let twice := 2 * (num % den)
  if twice < den then quotient
  else if den < twice then quotient + 1
  else quotient + quotient % 2

/-- The `k` with `2 ^ k ≤ num / den < 2 ^ (k + 1)`, for a positive quotient. -/
def floorLog (num den : Nat) : Int :=
  let k : Int := (num.log2 : Int) - den.log2
  if den * Nat.pow 2 k.toNat ≤ num * Nat.pow 2 (-k).toNat then k else k - 1

/-- The number nearest to `num / den`. -/
def round (num den : Nat) : Dyadic :=
  if num = 0 then zero
  else
    let exponent := max (floorLog num den - 52) leastExponent
    let mantissa :=
      nearestEven (num * Nat.pow 2 (-exponent).toNat) (den * Nat.pow 2 exponent.toNat)
    if mantissa = Nat.pow 2 precision then ⟨Nat.pow 2 52, exponent + 1⟩ else ⟨mantissa, exponent⟩

/-- The sum, rounded. -/
def add (x y : Dyadic) : Dyadic :=
  round (x.num * y.den + y.num * x.den) (x.den * y.den)

/-- The product, rounded. -/
def mul (x y : Dyadic) : Dyadic :=
  round (x.num * y.num) (x.den * y.den)

/-- The product with an integer, rounded. -/
def scale (x : Dyadic) (factor : Nat) : Dyadic :=
  round (x.num * factor) x.den

/-- The nearest integer, a half going up. -/
def toNearestNat (x : Dyadic) : Nat :=
  (2 * x.num + x.den) / (2 * x.den)

end Dyadic
end ResourcePaths
