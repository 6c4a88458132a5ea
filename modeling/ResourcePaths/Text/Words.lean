import ResourcePaths.Text.Classes

/-!
# Cutting and comparing texts

Trimming, cutting at a separator, and comparison without regard to ASCII case.
-/

namespace ResourcePaths
namespace Text

/-- The text without the blanks at its front. -/
def trimFront (text : List Char) : List Char :=
  text.dropWhile isBlank

/-- The text without the blanks at either end. -/
def trim (text : List Char) : List Char :=
  (trimFront (trimFront text).reverse).reverse

/-- The text in front of the first separator and the text behind it. -/
def cutFirst? (separator : Char) : List Char → Option (List Char × List Char)
  | [] => none
  | c :: rest =>
    if c = separator then some ([], rest)
    else (cutFirst? separator rest).map fun (front, back) => (c :: front, back)

/-- The text in front of the last separator and the text behind it. -/
def cutLast? (separator : Char) : List Char → Option (List Char × List Char)
  | [] => none
  | c :: rest =>
    match cutLast? separator rest with
    | some (front, back) => some (c :: front, back)
    | none => if c = separator then some ([], rest) else none

/-- What remains behind `front`, when the text starts with it. -/
def dropFront? : List Char → List Char → Option (List Char)
  | [], text => some text
  | _ :: _, [] => none
  | c :: front, d :: text => if c = d then dropFront? front text else none

/-- What remains in front of `last`, when the text ends with it. -/
def dropBack? (last : Char) (text : List Char) : Option (List Char) :=
  if text.getLast? = some last then some text.dropLast else none

/-- The text with every ASCII capital replaced by its small letter. -/
def fold (text : List Char) : List Char :=
  text.map Char.toLower

/-- Equality up to the case of ASCII letters. -/
def alike (left right : String) : Bool :=
  fold left.toList = fold right.toList

/-- The text without the blanks at either end. -/
def trimmed (text : String) : String :=
  String.ofList (trim text.toList)

/-- Whether a character occurs in the text. -/
def mentions (text : String) (c : Char) : Bool :=
  text.toList.contains c

/-- The pieces of a text between its separators, the empty ones included. -/
def pieces (separator : Char) (text : String) : List String :=
  (text.toList.splitOn separator).map String.ofList

/-- The items with a separator between each two. -/
def joined (separator : String) (items : List String) : String :=
  String.intercalate separator items

end Text
end ResourcePaths
