import ResourcePaths.Json.Number

/-!
# Reading JSON texts

From a text to the value that it writes, flaws and all.  Reading and skipping differ in what
they look at: a number beyond the range of doubles, an unpaired surrogate and a nesting of more
than 127 levels can be skipped, but not read.
-/

namespace ResourcePaths
namespace Json

/-- The blanks of JSON. -/
def isSpace (c : Char) : Bool :=
  c = ' ' || c = '\t' || c = '\n' || c = '\r'

/-- The text without the blanks at its front. -/
def skipSpace (text : List Char) : List Char :=
  text.dropWhile isSpace

theorem skipSpace_length (text : List Char) : (skipSpace text).length ≤ text.length :=
  (List.dropWhile_sublist isSpace).length_le

/-- The character of an escape of one letter. -/
def escapeOf? (c : Char) : Option Char :=
  match c with
  | '"' => some '"'
  | '\\' => some '\\'
  | '/' => some '/'
  | 'b' => some '\x08'
  | 'f' => some '\x0c'
  | 'n' => some '\n'
  | 'r' => some '\r'
  | 't' => some '\t'
  | _ => none

/-- The value of four hexadecimal digits. -/
def hex4? (a b c d : Char) : Option Nat :=
  match Text.hexValue? a, Text.hexValue? b, Text.hexValue? c, Text.hexValue? d with
  | some a, some b, some c, some d => some (((a * 16 + b) * 16 + c) * 16 + d)
  | _, _, _, _ => none

/-- The fault of a place where four hexadecimal digits should stand, but fewer than four
characters do: the text ends too early unless it has four bytes left. -/
def shortHexFault (rest : List Char) : Fault :=
  if (String.ofList rest).utf8ByteSize < 4 then .cutShort else .malformed

/-- The text behind a string, whose opening quote has been taken. -/
def skipString : List Char → Except Fault (List Char)
  | [] => .error .cutShort
  | '"' :: rest => .ok rest
  | ['\\'] => .error .cutShort
  | '\\' :: 'u' :: a :: b :: c :: d :: rest =>
    if (hex4? a b c d).isSome then skipString rest else .error .malformed
  | '\\' :: 'u' :: rest => .error (shortHexFault rest)
  | '\\' :: c :: rest => if (escapeOf? c).isSome then skipString rest else .error .malformed
  | c :: rest => if c.toNat < 32 then .error .malformed else skipString rest

/-- The first half of a pair of surrogates. -/
def isLeading (unit : Nat) : Bool := 0xD800 ≤ unit && unit ≤ 0xDBFF

/-- The second half of a pair of surrogates. -/
def isTrailing (unit : Nat) : Bool := 0xDC00 ≤ unit && unit ≤ 0xDFFF

/-- The character of a pair of surrogates. -/
def ofPair (leading trailing : Nat) : Char :=
  Char.ofNat ((leading - 0xD800) * 1024 + (trailing - 0xDC00) + 0x10000)

/-- A string, whose opening quote has been taken, with the characters read so far in front in
reverse. -/
def readString (read : List Char) : List Char → Except Fault (List Char)
  | [] => .error .cutShort
  | '"' :: _ => .ok read.reverse
  | ['\\'] => .error .cutShort
  | '\\' :: 'u' :: a :: b :: c :: d :: rest =>
    match hex4? a b c d with
    | none => .error .malformed
    | some unit =>
      if isTrailing unit then .error .malformed
      else if isLeading unit then
        match rest with
        | [] => .error .cutShort
        | ['\\'] => .error .cutShort
        | '\\' :: 'u' :: a :: b :: c :: d :: rest =>
          match hex4? a b c d with
          | none => .error .malformed
          | some second =>
            if isTrailing second then readString (ofPair unit second :: read) rest
            else .error .malformed
        | '\\' :: 'u' :: rest => .error (shortHexFault rest)
        | _ => .error .malformed
      else readString (Char.ofNat unit :: read) rest
  | '\\' :: 'u' :: rest => .error (shortHexFault rest)
  | '\\' :: c :: rest =>
    match escapeOf? c with
    | none => .error .malformed
    | some c => readString (c :: read) rest
  | c :: rest => if c.toNat < 32 then .error .malformed else readString (c :: read) rest

theorem skipString_length {text rest : List Char} (h : skipString text = .ok rest) :
    rest.length < text.length := by
  fun_induction skipString text <;> simp_all <;> omega

/-- What remains of a text. -/
abbrev Rest (text : List Char) := { rest : List Char // rest.length < text.length }

/-- A value and what stands behind it; nothing once the text has broken off. -/
abbrev Found (α : Type) (text : List Char) := α × Option (Rest text)

/-- The fault of a number that should go on: reading tells an early end from a wrong
character, skipping does not. -/
def numberFlaw (rest : List Char) : Json :=
  flaw (if rest.isEmpty then .cutShort else .malformed) (some .malformed)

/-- The exponent behind its mark, and the rest; or the text in which its digits are missing. -/
def exponentAt (text : List Char) : Except (List Char) (Int × List Char) :=
  let negative := text.head? = some '-'
  let digits := if negative || text.head? = some '+' then text.drop 1 else text
  let taken := digits.takeWhile Char.isDigit
  if taken.isEmpty then .error digits
  else
    let value : Int := Text.natOfDigits taken
    .ok (if negative then -value else value, digits.dropWhile Char.isDigit)

def shorter? (text rest : List Char) : Option (Rest text) :=
  if h : rest.length < text.length then some ⟨rest, h⟩ else none

/-- A number at the front of a text. -/
def numberAt (text : List Char) : Found Json text :=
  let negative := text.head? = some '-'
  let body := if negative then text.drop 1 else text
  let whole := body.takeWhile Char.isDigit
  let behind := body.dropWhile Char.isDigit
  if whole.isEmpty then (numberFlaw behind, none)
  else if whole.head? = some '0' && 1 < whole.length then (broken .malformed, none)
  else
    let (point, digits) :=
      match behind with
      | '.' :: rest => (true, rest)
      | rest => (false, rest)
    let fraction := if point then digits.takeWhile Char.isDigit else []
    let behind := if point then digits.dropWhile Char.isDigit else digits
    if point && fraction.isEmpty then (numberFlaw behind, none)
    else
      let found (exponent : Option Int) (rest : List Char) : Found Json text :=
        (NumberParts.toJson ⟨negative, whole, fraction, exponent⟩
          (text.take (text.length - rest.length)), shorter? text rest)
      match behind with
      | c :: rest =>
        if c = 'e' || c = 'E' then
          match exponentAt rest with
          | .ok (exponent, rest) => found (some exponent) rest
          | .error rest => (numberFlaw rest, none)
        else found none behind
      | [] => found none []

/-- A word at the front of a text. -/
def wordAt (word : List Char) (value : Json) (text : List Char) : Found Json text :=
  let common := (text.zip word).takeWhile fun (c, d) => c = d
  if common.length = word.length then (value, shorter? text (text.drop word.length))
  else if common.length = text.length then (broken .cutShort, none)
  else (broken .malformed, none)

/-- A string behind its opening quote, as the value to read and the text behind it. -/
def stringAt (text : List Char) : Except Fault String × Except Fault (Rest text) :=
  let value := (readString [] text).map String.ofList
  match h : skipString text with
  | .error fault => (value, .error fault)
  | .ok rest => (value, .ok ⟨rest, skipString_length h⟩)

/-- A container nested too deeply: it can be skipped, but not read. -/
def tooDeep (value : Json) : Json :=
  flaw .malformed value.skipFault?

mutual

/-- A value at the front of a text, in which containers may be nested `room` deep. -/
def valueAt (room : Nat) (text : List Char) : Found Json text :=
  match h : skipSpace text with
  | [] => (broken .cutShort, none)
  | c :: rest =>
    have hrest : rest.length < text.length := by
      have := skipSpace_length text
      simp only [h, List.length_cons] at this
      omega
    have hall : (c :: rest).length ≤ text.length := by
      simp only [List.length_cons]
      omega
    let widen (found : Found Json (c :: rest)) : Found Json text :=
      (found.1, found.2.map fun r => ⟨r.1, Nat.lt_of_lt_of_le r.2 hall⟩)
    if c = 'n' then widen (wordAt "null".toList null (c :: rest))
    else if c = 't' then widen (wordAt "true".toList (bool true) (c :: rest))
    else if c = 'f' then widen (wordAt "false".toList (bool false) (c :: rest))
    else if c = '-' || c.isDigit then widen (numberAt (c :: rest))
    else if c = '"' then
      match stringAt rest with
      | (.ok value, .ok back) => (string value, some ⟨back.1, Nat.lt_trans back.2 hrest⟩)
      | (.error fault, .ok back) =>
        (flaw fault none, some ⟨back.1, Nat.lt_trans back.2 hrest⟩)
      | (.error fault, .error skipping) => (flaw fault (some skipping), none)
      | (.ok _, .error fault) => (broken fault, none)
    else if c = '[' then
      let (items, back) := itemsAt (room - 1) true rest
      let value := if room = 0 then tooDeep (array items) else array items
      (value, back.map fun r => ⟨r.1, Nat.lt_trans r.2 hrest⟩)
    else if c = '\x7b' then
      let (members, back) := membersAt (room - 1) true rest
      let value := if room = 0 then tooDeep (object members) else object members
      (value, back.map fun r => ⟨r.1, Nat.lt_trans r.2 hrest⟩)
    else (broken .malformed, none)
  termination_by (text.length, 0)

/-- The items of an array, up to its closing bracket, which may stand here when `first`. -/
def itemsAt (room : Nat) (first : Bool) (text : List Char) : Found (List Json) text :=
  match h : skipSpace text with
  | [] => ([broken .cutShort], none)
  | c :: rest =>
    have hrest : rest.length < text.length := by
      have := skipSpace_length text
      simp only [h, List.length_cons] at this
      omega
    if c = ']' then
      if first then ([], some ⟨rest, hrest⟩) else ([broken .malformed], none)
    else
      match valueAt room text with
      | (item, none) => ([item], none)
      | (item, some back) =>
        match hback : skipSpace back.1 with
        | [] => ([item, broken .cutShort], none)
        | d :: behind =>
          have hbehind : behind.length < text.length := by
            have := skipSpace_length back.1
            have := back.2
            simp only [hback, List.length_cons] at *
            omega
          if d = ',' then
            let (items, back) := itemsAt room false behind
            (item :: items, back.map fun r => ⟨r.1, Nat.lt_trans r.2 hbehind⟩)
          else if d = ']' then ([item], some ⟨behind, hbehind⟩)
          else ([item, broken .malformed], none)
  termination_by (text.length, 1)

/-- The members of an object, up to its closing brace, which may stand here when `first`. -/
def membersAt (room : Nat) (first : Bool) (text : List Char) : Found (List Member) text :=
  let stop (fault : Fault) : Found (List Member) text := ([(.error fault, broken fault)], none)
  match h : skipSpace text with
  | [] => stop .cutShort
  | c :: rest =>
    have hrest : rest.length < text.length := by
      have := skipSpace_length text
      simp only [h, List.length_cons] at this
      omega
    if c = '\x7d' then
      if first then ([], some ⟨rest, hrest⟩) else stop .malformed
    else if c = '"' then
      match stringAt rest with
      | (.ok _, .error fault) => stop fault
      | (.error fault, .error skipping) =>
        ([(.error fault, flaw fault (some skipping))], none)
      | (name, .ok back) =>
        match hback : skipSpace back.1 with
        | [] => ([(name, broken .cutShort)], none)
        | d :: behind =>
          have hbehind : behind.length < text.length := by
            have := skipSpace_length back.1
            have := back.2
            simp only [hback, List.length_cons] at *
            omega
          if d = ':' then
            match valueAt room behind with
            | (value, none) => ([(name, value)], none)
            | (value, some back) =>
              match hnext : skipSpace back.1 with
              | [] => ([(name, value), (.error .cutShort, broken .cutShort)], none)
              | e :: next =>
                have hnext : next.length < text.length := by
                  have := skipSpace_length back.1
                  have := back.2
                  simp only [hnext, List.length_cons] at *
                  omega
                if e = ',' then
                  let (members, back) := membersAt room false next
                  ((name, value) :: members,
                    back.map fun r => ⟨r.1, Nat.lt_trans r.2 hnext⟩)
                else if e = '\x7d' then ([(name, value)], some ⟨next, hnext⟩)
                else ([(name, value), (.error .malformed, broken .malformed)], none)
          else ([(name, broken .malformed)], none)
    else stop .malformed
  termination_by (text.length, 1)

end

/-- The deepest nesting that can be read. -/
def deepest : Nat := 127

/-- The value that a text writes, followed by a flaw where something stands behind it. -/
def document (text : String) : Json × Option Fault :=
  match valueAt deepest text.toList with
  | (value, none) => (value, none)
  | (value, some back) =>
    (value, if (skipSpace back.1).isEmpty then none else some .malformed)

/-- The fault of a text in which a fault is met.  A record is complete with its last field, so
that an array with more items does not end where its text has to. -/
def Fault.inText : Fault → Fault
  | surplus => malformed
  | other => other

/-- What a decoder makes of the value that a text writes. -/
def decodeText {α : Type} (decode : Json → Except Fault α) (text : String) : Except Fault α := do
  let (value, trailing) := document text
  let result ← (decode value).mapError Fault.inText
  pass trailing
  pure result

end Json
end ResourcePaths
