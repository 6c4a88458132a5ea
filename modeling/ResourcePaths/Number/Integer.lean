import ResourcePaths.Text.Classes

/-!
# Integers of sixty-four bits

Reading an integer from a text, and arithmetic that stops at the ends of the range.
-/

namespace ResourcePaths
namespace Integer

/-- Whether an integer lies in the range of signed integers of `bits` bits. -/
def inSigned (bits : Nat) (n : Int) : Bool :=
  let half : Int := Nat.pow 2 (bits - 1)
  n < half && -half ≤ n

/-- Whether an integer lies in the range of unsigned integers of `bits` bits. -/
def inUnsigned (bits : Nat) (n : Int) : Bool :=
  0 ≤ n && n < (Nat.pow 2 bits : Nat)

/-- The integer as a word, when it has one. -/
def toWord? (n : Int) : Option Int64 :=
  if inSigned 64 n then some (Int64.ofInt n) else none

/-- The word nearest to an integer. -/
def saturate (n : Int) : Int64 :=
  if inSigned 64 n then Int64.ofInt n
  else if n < 0 then Int64.minValue
  else Int64.maxValue

/-- The integer that an optional sign and at least one digit write. -/
def ofText? (text : List Char) : Option Int :=
  match text with
  | '-' :: digits => (value? digits).map fun n => -(n : Int)
  | '+' :: digits => (value? digits).map fun n => (n : Int)
  | digits => (value? digits).map fun n => (n : Int)
where
  /-- The value of at least one digit. -/
  value? (digits : List Char) : Option Nat :=
    if digits ≠ [] ∧ digits.all Char.isDigit then some (Text.natOfDigits digits) else none

/-- The word that an optional sign and at least one digit write, when it is in range. -/
def wordOfText? (text : List Char) : Option Int64 :=
  (ofText? text).bind toWord?

end Integer
end ResourcePaths
