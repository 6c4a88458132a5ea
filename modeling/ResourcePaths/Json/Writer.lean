import ResourcePaths.Json.Basic
import ResourcePaths.Text.Classes

/-!
# Writing JSON texts
-/

namespace ResourcePaths
namespace Json

/-- A character inside a string. -/
def writeChar (c : Char) : List Char :=
  if c = '"' then ['\\', '"']
  else if c = '\\' then ['\\', '\\']
  else if c.toNat < 32 then
    ['\\', 'u', '0', '0', Text.hexDigit (c.toNat / 16), Text.hexDigit (c.toNat % 16)]
  else [c]

def writeString (text : String) : List Char :=
  '"' :: text.toList.flatMap writeChar ++ ['"']

mutual

/-- A value.  A flaw has no text of its own. -/
def write : Json → List Char
  | null => "null".toList
  | bool value => (if value then "true" else "false").toList
  | integer value => (toString value).toList
  | decimal text => text.toList
  | string value => writeString value
  | array items => '[' :: writeItems items ++ [']']
  | object members => '\x7b' :: writeMembers members ++ ['\x7d']
  | flaw _ _ => "null".toList

/-- Items with commas between. -/
def writeItems : List Json → List Char
  | [] => []
  | [item] => item.write
  | item :: rest => item.write ++ ',' :: writeItems rest

/-- Members with commas between.  A member whose name is a flaw is left out. -/
def writeMembers : List (Except Fault String × Json) → List Char
  | [] => []
  | (.error _, _) :: rest => writeMembers rest
  | [(.ok name, value)] => writeString name ++ ':' :: value.write
  | (.ok name, value) :: rest => writeString name ++ ':' :: value.write ++ ',' :: writeMembers rest

end

/-- The text of a value. -/
def render (value : Json) : String :=
  String.ofList value.write

end Json
end ResourcePaths
