import ResourcePaths.Calendar.Instant
import ResourcePaths.Number.Double
import ResourcePaths.Guid

/-!
# Literals

The values that key predicates and operation parameters write.
-/

namespace ResourcePaths

/-- A literal value. -/
inductive Literal where
  | null
  /-- `true` or `false`. -/
  | boolean (value : Bool)
  /-- An integer of sixty-four bits. -/
  | integer (value : Int64)
  /-- A number with a fraction, an exponent or a suffix. -/
  | decimal (value : Double)
  /-- A quoted text. -/
  | string (value : String)
  /-- A guid in groups. -/
  | guid (value : Guid)
  | date (value : Date)
  | dateTimeOffset (value : Instant)
  | timeOfDay (value : TimeOfDay)
  /-- The quoted text of a duration, not looked into. -/
  | duration (text : String)
  /-- A member of an enumeration type. -/
  | enum (typeName member : String)
  deriving DecidableEq, Repr

namespace Literal

/-- The short name of the form. -/
def kindName : Literal → String
  | null => "null"
  | boolean _ => "boolean"
  | integer _ => "integer"
  | decimal _ => "decimal"
  | string _ => "string"
  | guid _ => "guid"
  | date _ => "date"
  | dateTimeOffset _ => "datetimeoffset"
  | timeOfDay _ => "timeofday"
  | duration _ => "duration"
  | enum _ _ => "enum"

end Literal
end ResourcePaths
