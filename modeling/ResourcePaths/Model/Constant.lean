import ResourcePaths.Calendar.Duration
import ResourcePaths.Calendar.Instant
import ResourcePaths.Guid
import ResourcePaths.Model.Problem
import ResourcePaths.Number.Integer

/-!
# Constants

The values of the constants that annotations and default values write.  A constant whose text
does not fit its kind has the zero of that kind and one problem.
-/

namespace ResourcePaths

/-- The value of a constant. -/
inductive ConstantValue where
  | binary (bytes : List UInt8)
  | boolean (value : Bool)
  | date (value : Date)
  | dateTimeOffset (value : Instant)
  | decimal (value : Double)
  | duration (value : Duration)
  | floating (value : Double)
  | guid (value : Guid)
  | integer (value : Int64)
  | string (value : String)
  | timeOfDay (value : TimeOfDay)
  deriving DecidableEq, Repr

namespace ConstantValue

open Declared (ConstantKind)

def zero : ConstantKind → ConstantValue
  | .binary => binary []
  | .boolean => boolean false
  | .date => date Date.epoch
  | .dateTimeOffset => dateTimeOffset Instant.epoch
  | .decimal => decimal Double.zero
  | .duration => duration Duration.zero
  | .floating => floating Double.zero
  | .guid => guid Guid.nil
  | .integer => integer 0
  | .string => string ""
  | .timeOfDay => timeOfDay TimeOfDay.midnight

/-- The byte that two characters write: two hexadecimal digits, or one behind a plus sign. -/
def byte? (first second : Char) : Option UInt8 :=
  match Text.hexValue? first, Text.hexValue? second with
  | some high, some low => some (UInt8.ofNat (16 * high + low))
  | none, some low => if first = '+' then some (UInt8.ofNat low) else none
  | _, _ => none

/-- The bytes that a text writes, two characters for each. -/
def bytes? : List Char → Option (List UInt8)
  | [] => some []
  | [_] => none
  | first :: second :: rest => do
    let byte ← byte? first second
    let bytes ← bytes? rest
    pure (byte :: bytes)

/-- The double that a text writes, unless it is too large. -/
def finite? (text : List Char) : Option Double :=
  ((Decimal.ofText? text).map Decimal.toDouble).filter Double.isFinite

/-- The double that a text writes, or one of the three that have no digits. -/
def floating? (text : String) : Option Double :=
  match text with
  | "INF" => some Double.infinity
  | "-INF" => some Double.negativeInfinity
  | "NaN" => some Double.nan
  | text => finite? text.toList

/-- The truth value that a text writes, in letters of either case. -/
def boolean? (text : String) : Option Bool :=
  let folded := String.ofList (Text.fold text.toList)
  if folded = "true" then some true
  else if folded = "false" then some false
  else none

/-- The value of a kind that a text writes. -/
def ofText? (kind : ConstantKind) (text : String) : Option ConstantValue :=
  match kind with
  | .binary => (bytes? text.toList).map binary
  | .boolean => (boolean? text).map boolean
  | .date => (Date.ofText? text.toList).map date
  | .dateTimeOffset => (Instant.ofText? text.toList).map dateTimeOffset
  | .decimal => (finite? text.toList).map decimal
  | .duration => (Duration.ofText? text.toList).map duration
  | .floating => (floating? text).map floating
  | .guid => (Guid.ofText? text.toList).map guid
  | .integer => (Integer.wordOfText? text.toList).map integer
  | .string => some (string text)
  | .timeOfDay => (TimeOfDay.ofText? text.toList).map timeOfDay

end ConstantValue

namespace Declared.Constant

/-- The value of a constant, with a problem where its text does not fit its kind. -/
def resolved (constant : Constant) : Resolved ConstantValue :=
  match ConstantValue.ofText? constant.kind constant.text with
  | some value => .clean value
  | none =>
    ⟨.zero constant.kind, [⟨constant.location, .invalidLiteral constant.text constant.kind⟩]⟩

def value (constant : Constant) : ConstantValue :=
  constant.resolved.value

def errors (constant : Constant) : List ModelError :=
  constant.resolved.errors

end Declared.Constant
end ResourcePaths
