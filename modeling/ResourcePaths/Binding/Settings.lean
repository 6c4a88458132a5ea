import ResourcePaths.Json.Reader
import ResourcePaths.Json.Record
import ResourcePaths.Number.Integer

/-!
# Settings of the binder
-/

namespace ResourcePaths

/-- What the binder allows. -/
structure Settings where
  /-- Whether names are matched without regard to ASCII case where none matches exactly. -/
  ignoreCase : Bool := false
  /-- Whether bound operations may be called without their namespace. -/
  unqualifiedCalls : Bool := false
  /-- The greatest number of tokens of a path. -/
  maxSegments : Nat := 100
  deriving DecidableEq, Repr, Inhabited

namespace Settings

open Json (FieldShape Shape)

/-- The fields of the settings. -/
def shape : Shape Settings where
  blank := {}
  fields := [
    .flag "enable_case_insensitive" (·.ignoreCase) fun r v => { r with ignoreCase := v },
    .flag "enable_unqualified_operation_call" (·.unqualifiedCalls)
      fun r v => { r with unqualifiedCalls := v },
    .of "max_segments" false
      (fun value => (value.asInteger (Integer.inUnsigned 64)).map Int.toNat)
      (fun n => some (.integer n)) (·.maxSegments) fun r v => { r with maxSegments := v }]

/-- The settings that a value writes. -/
def decode (json : Json) : Except Json.Fault Settings :=
  shape.decode json

/-- The value that writes the settings. -/
def encode (settings : Settings) : Json :=
  shape.encode settings

/-- The settings that a text writes. -/
def ofText (text : String) : Except Json.Fault Settings :=
  Json.decodeText decode text

end Settings
end ResourcePaths
