import ResourcePaths.Text.Alphabetic
import ResourcePaths.Text.Numeric

/-!
# Character classes

The classes that names, numbers and blanks are made of.  Letters and letters or
digits of names are Unicode classes; digits of numbers are ASCII alone.
-/

namespace ResourcePaths
namespace Text

/-- A character with the property `Alphabetic`. -/
def isAlphabetic (c : Char) : Bool :=
  if c.toNat < 128 then c.isAlpha else alphabetic.has c.toNat

/-- A character of a number category. -/
def isNumeric (c : Char) : Bool :=
  if c.toNat < 128 then c.isDigit else numeric.has c.toNat

/-- The characters that a name may start with. -/
def startsName (c : Char) : Bool :=
  isAlphabetic c || c = '_'

/-- The characters that a name may go on with. -/
def continuesName (c : Char) : Bool :=
  isAlphabetic c || isNumeric c || c = '_'

/-- The characters with the property `White_Space`. -/
def isBlank (c : Char) : Bool :=
  let n := c.toNat
  (9 ≤ n && n ≤ 13) || n = 0x20 || n = 0x85 || n = 0xA0 || n = 0x1680 ||
    (0x2000 ≤ n && n ≤ 0x200A) || n = 0x2028 || n = 0x2029 || n = 0x202F ||
    n = 0x205F || n = 0x3000

/-- The value of an ASCII hexadecimal digit of either case. -/
def hexValue? (c : Char) : Option Nat :=
  if '0' ≤ c ∧ c ≤ '9' then some (c.toNat - 48)
  else if 'a' ≤ c ∧ c ≤ 'f' then some (c.toNat - 87)
  else if 'A' ≤ c ∧ c ≤ 'F' then some (c.toNat - 55)
  else none

/-- An ASCII hexadecimal digit of either case. -/
def isHex (c : Char) : Bool :=
  (hexValue? c).isSome

/-- The lower-case hexadecimal digit of a value below sixteen. -/
def hexDigit (n : Nat) : Char :=
  Char.ofNat (if n < 10 then 48 + n else 87 + n)

/-- The value of a string of ASCII digits, read in base ten. -/
def natOfDigits (digits : List Char) : Nat :=
  digits.foldl (fun value c => 10 * value + (c.toNat - 48)) 0

end Text
end ResourcePaths
