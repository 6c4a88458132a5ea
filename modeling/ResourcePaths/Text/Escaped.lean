import ResourcePaths.Text.DefaultIgnorable
import ResourcePaths.Text.GraphemeExtend
import ResourcePaths.Text.Unprintable
import ResourcePaths.Text.Classes

/-!
# Escaped text

How a text is shown inside an error message: between double quotes, with an escape for
every character that could not be seen there.
-/

namespace ResourcePaths
namespace Escaped

/-- The digits of a number in base sixteen. -/
def hexText (n : Nat) : String :=
  String.ofList ((Nat.toDigits 16 n).map Char.toLower)

/-- Whether a character joins the one in front of it.  The halfwidth sound marks of Katakana,
U+FF9E and U+FF9F, are letters that take a place of their own. -/
def isJoining (c : Char) : Bool :=
  Text.graphemeExtend.has c.toNat && c ≠ '\uff9e' && c ≠ '\uff9f'

/-- Whether a character would not be seen as itself. -/
def isHidden (c : Char) : Bool :=
  if c.toNat < 128 then c.toNat < 32 || c.toNat = 127
  else isJoining c || Text.unprintable.has c.toNat || Text.defaultIgnorable.has c.toNat

/-- A character as it is shown. -/
def showChar (c : Char) : String :=
  if c = '"' then "\\\""
  else if c = '\\' then "\\\\"
  else if c = '\t' then "\\t"
  else if c = '\r' then "\\r"
  else if c = '\n' then "\\n"
  else if c.toNat = 0 then "\\0"
  else if isHidden c then "\\u\x7b" ++ hexText c.toNat ++ "\x7d"
  else String.singleton c

/-- A text between double quotes, as it is shown. -/
def quote (text : List Char) : String :=
  "\"" ++ String.join (text.map showChar) ++ "\""

end Escaped
end ResourcePaths
