import ResourcePaths.Text.Words

/-!
# Guids

Identifiers of 128 bits, written in hexadecimal digits.
-/

namespace ResourcePaths

/-- An identifier of 128 bits. -/
structure Guid where
  /-- The identifier as a number. -/
  value : BitVec 128
  deriving DecidableEq, Repr

namespace Guid

/-- The identifier of zeroes. -/
def nil : Guid := ⟨0⟩

/-- The lengths of the groups between hyphens. -/
def groups : List Nat := [8, 4, 4, 4, 12]

/-- The value of hexadecimal digits. -/
def ofHex? (digits : List Char) : Option Nat :=
  digits.foldlM (fun value c => (Text.hexValue? c).map (16 * value + ·)) 0

/-- The identifier that thirty-two digits write. -/
def ofDigits? (digits : List Char) : Option Guid :=
  if digits.length = 32 then (ofHex? digits).map fun n => ⟨BitVec.ofNat 128 n⟩ else none

/-- The text without the hyphens that stand behind each group but the last. -/
def dropHyphens? : List Nat → List Char → Option (List Char)
  | [], text => some text
  | [size], text => if text.length = size then some text else none
  | size :: sizes, text =>
    match text.drop size with
    | '-' :: rest => (dropHyphens? sizes rest).map (text.take size ++ ·)
    | _ => none

/-- The identifier that digits in groups write. -/
def ofHyphenated? (text : List Char) : Option Guid :=
  (dropHyphens? groups text).bind ofDigits?

/-- The mark of a guid that is written as a resource name. -/
def resourceMark : List Char := "urn:uuid:".toList

/-- The identifier that a text writes: digits alone, in groups, in groups between braces, or
in groups behind `urn:uuid:` in letters of either case. -/
def ofText? (text : List Char) : Option Guid :=
  match text.length with
  | 32 => ofDigits? text
  | 36 => ofHyphenated? text
  | 38 =>
    (Text.dropFront? ['\x7b'] text).bind fun inner =>
      (Text.dropBack? '\x7d' inner).bind ofHyphenated?
  | 45 =>
    if Text.fold (text.take resourceMark.length) = resourceMark then
      ofHyphenated? (text.drop resourceMark.length)
    else none
  | _ => none

/-- The thirty-two digits of an identifier. -/
def digits (guid : Guid) : List Char :=
  (List.range 32).map fun i => Text.hexDigit (guid.value.toNat / Nat.pow 16 (31 - i) % 16)

/-- Digits in groups, with hyphens between. -/
def addHyphens : List Nat → List Char → List Char
  | [], digits => digits
  | [_], digits => digits
  | size :: sizes, digits => digits.take size ++ '-' :: addHyphens sizes (digits.drop size)

/-- The identifier as digits in groups. -/
def write (guid : Guid) : List Char :=
  addHyphens groups guid.digits

end Guid
end ResourcePaths
