import ResourcePaths.Declared.Basic
import ResourcePaths.Number.Integer

/-!
# Primitive types
-/

namespace ResourcePaths

/-- A type that every model knows. -/
inductive Primitive where
  | binary
  | boolean
  | byte
  | date
  | dateTimeOffset
  | decimal
  | double
  | duration
  | guid
  | int16
  | int32
  | int64
  | sbyte
  | single
  | stream
  | string
  | timeOfDay
  deriving DecidableEq, Repr

namespace Primitive

/-- The qualified name of the type. -/
def name : Primitive → String
  | binary => "Edm.Binary"
  | boolean => "Edm.Boolean"
  | byte => "Edm.Byte"
  | date => "Edm.Date"
  | dateTimeOffset => "Edm.DateTimeOffset"
  | decimal => "Edm.Decimal"
  | double => "Edm.Double"
  | duration => "Edm.Duration"
  | guid => "Edm.Guid"
  | int16 => "Edm.Int16"
  | int32 => "Edm.Int32"
  | int64 => "Edm.Int64"
  | sbyte => "Edm.SByte"
  | single => "Edm.Single"
  | stream => "Edm.Stream"
  | string => "Edm.String"
  | timeOfDay => "Edm.TimeOfDay"

/-- All primitive types. -/
def all : List Primitive :=
  [binary, boolean, byte, date, dateTimeOffset, decimal, double, duration, guid, int16, int32,
   int64, sbyte, single, stream, string, timeOfDay]

/-- The type with a qualified name. -/
def ofName? (name : String) : Option Primitive :=
  all.find? fun primitive => primitive.name = name

/-- The range of the integers of a type; nothing where the type has no integers alone. -/
def range? : Primitive → Option (Int → Bool)
  | byte => some (Integer.inUnsigned 8)
  | sbyte => some (Integer.inSigned 8)
  | int16 => some (Integer.inSigned 16)
  | int32 => some (Integer.inSigned 32)
  | int64 => some (Integer.inSigned 64)
  | _ => none

/-- Whether the values of the type are integers. -/
def isIntegral (primitive : Primitive) : Bool :=
  primitive.range?.isSome

/-- The kind of constants that write values of the type; streams have none. -/
def constantKind? : Primitive → Option Declared.ConstantKind
  | binary => some .binary
  | boolean => some .boolean
  | byte | sbyte | int16 | int32 | int64 => some .integer
  | date => some .date
  | dateTimeOffset => some .dateTimeOffset
  | decimal => some .decimal
  | double | single => some .floating
  | duration => some .duration
  | guid => some .guid
  | stream => none
  | string => some .string
  | timeOfDay => some .timeOfDay

end Primitive
end ResourcePaths
