import ResourcePaths.Literal.Basic
import ResourcePaths.Number.Integer
import ResourcePaths.Text.Quoted

/-!
# Reading literals

The forms are tried in a fixed order, and the first one that reads something at the front of
the text is the one that counts: the text is no literal when that form leaves a rest.
-/

namespace ResourcePaths
namespace Literal

/-- A quoted text. -/
def quoted : Reader String := do
  let text ← (Quoted.read? : Reader (List Char))
  pure (String.ofList text)

def nullForm : Reader Literal := do
  Reader.word "null".toList
  pure null

/-- `true` or `false`. -/
def booleanForm : Reader Literal :=
  Reader.or
    (do Reader.word "true".toList; pure (boolean true))
    (do Reader.word "false".toList; pure (boolean false))

/-- A duration: a quoted text behind its mark. -/
def durationForm : Reader Literal := do
  Reader.word "duration".toList
  let text ← quoted
  pure (duration text)

/-- A quoted text. -/
def stringForm : Reader Literal := do
  let text ← quoted
  pure (string text)

/-- An enumeration member: a quoted text behind the qualified name of the type. -/
def enumForm : Reader Literal := do
  let typeName ← Reader.qualifiedName
  let member ← quoted
  pure (enum (String.ofList typeName) member)

/-- The text of a guid in groups. -/
def guidText : Reader (List Char) := do
  let first ← Reader.exactly 8 Text.isHex
  let _ ← Reader.char '-'
  let second ← Reader.exactly 4 Text.isHex
  let _ ← Reader.char '-'
  let third ← Reader.exactly 4 Text.isHex
  let _ ← Reader.char '-'
  let fourth ← Reader.exactly 4 Text.isHex
  let _ ← Reader.char '-'
  let fifth ← Reader.exactly 12 Text.isHex
  pure (first ++ '-' :: second ++ '-' :: third ++ '-' :: fourth ++ '-' :: fifth)

/-- A guid in groups. -/
def guidForm : Reader Literal :=
  guidText.filterMap fun text => (Guid.ofText? text).map guid

def dateText : Reader (List Char) := do
  let year ← Reader.exactly 4 Char.isDigit
  let _ ← Reader.char '-'
  let month ← Reader.exactly 2 Char.isDigit
  let _ ← Reader.char '-'
  let day ← Reader.exactly 2 Char.isDigit
  pure (year ++ '-' :: month ++ '-' :: day)

/-- The text of the fraction of a second, with its point. -/
def fractionText : Reader (List Char) := do
  let _ ← Reader.char '.'
  let digits ← Reader.many1 Char.isDigit
  pure ('.' :: digits)

/-- The text of a second with its colon, and with a fraction where there is one. -/
def secondText : Reader (List Char) := do
  let _ ← Reader.char ':'
  let second ← Reader.exactly 2 Char.isDigit
  let fraction ← Reader.maybe fractionText
  pure (':' :: second ++ fraction.getD [])

/-- The text of a time of day. -/
def timeText : Reader (List Char) := do
  let hour ← Reader.exactly 2 Char.isDigit
  let _ ← Reader.char ':'
  let minute ← Reader.exactly 2 Char.isDigit
  let second ← Reader.maybe secondText
  pure (hour ++ ':' :: minute ++ second.getD [])

def offsetText : Reader (List Char) :=
  Reader.or
    (do let c ← Reader.char 'Z'; pure [c])
    (do
      let sign ← Reader.satisfying fun c => c = '+' || c = '-'
      let hours ← Reader.exactly 2 Char.isDigit
      let _ ← Reader.char ':'
      let minutes ← Reader.exactly 2 Char.isDigit
      pure (sign :: hours ++ ':' :: minutes))

/-- The text of a date and a time with an offset. -/
def instantText : Reader (List Char) := do
  let date ← dateText
  let _ ← Reader.char 'T'
  let time ← timeText
  let offset ← offsetText
  pure (date ++ 'T' :: time ++ offset)

/-- A date and a time with an offset, when it exists. -/
def instantForm : Reader Literal :=
  instantText.filterMap fun text => (Instant.ofText? text).map dateTimeOffset

/-- A date, when it exists. -/
def dateForm : Reader Literal :=
  dateText.filterMap fun text => (Date.ofText? text).map date

/-- A time of day, when it exists. -/
def timeForm : Reader Literal :=
  timeText.filterMap fun text => (TimeOfDay.ofText? text).map timeOfDay

/-- The parts of a number. -/
structure NumberParts where
  sign : Option Char
  /-- The digits before the point. -/
  whole : List Char
  /-- The digits behind the point, where there is one. -/
  fraction : Option (List Char)
  exponent : Option Int
  suffix : Option Char
  deriving DecidableEq, Repr

def numberParts : Reader NumberParts := do
  let sign ← Reader.maybe (Reader.satisfying fun c => c = '+' || c = '-')
  let whole ← Reader.many1 Char.isDigit
  let fraction ← Reader.maybe do
    let _ ← Reader.char '.'
    Reader.many1 Char.isDigit
  let exponent ← Reader.maybe Decimal.exponentReader
  let suffix ← Reader.maybe (Reader.satisfying fun c => "LlDdFfMm".toList.contains c)
  pure ⟨sign, whole, fraction, exponent, suffix⟩

/-- The value of a number.  It is an integer when it is written as one, without a suffix or
with the suffix `L`; that suffix goes with nothing else. -/
def NumberParts.value? (parts : NumberParts) : Option Literal :=
  let negative := parts.sign = some '-'
  let isLong := parts.suffix = some 'L' || parts.suffix = some 'l'
  if parts.fraction.isNone && parts.exponent.isNone && (parts.suffix.isNone || isLong) then
    let magnitude : Int := Text.natOfDigits parts.whole
    (Integer.toWord? (if negative then -magnitude else magnitude)).map integer
  else if isLong then none
  else
    some (decimal (Decimal.ofDigits negative parts.whole (parts.fraction.getD [])
      (parts.exponent.getD 0)).toDouble)

/-- A number, when it is in range. -/
def numberForm : Reader Literal :=
  numberParts.filterMap NumberParts.value?

/-- The forms in the order in which they are tried. -/
def forms : List (Reader Literal) :=
  [nullForm, booleanForm, durationForm, stringForm, enumForm, guidForm, instantForm, dateForm,
   timeForm, numberForm]

/-- The first form that reads something. -/
def reader : Reader Literal :=
  forms.foldr Reader.or failure

/-- The literal that a text writes. -/
def ofText? (text : String) : Option Literal :=
  Reader.whole reader text.toList

end Literal
end ResourcePaths
