import ResourcePaths.Json.Basic

/-!
# Records in JSON

A record is described once, by its fields; decoding and encoding both follow that description.
Decoding takes the members of an object in their order, so that the first fault in the text is
the one reported: a member that is not a field is skipped, one that comes again is a fault, and
a field that is asked for but missing is a fault at the end of the object.  An array is a record,
too, with its fields in their order and without their names.
-/

namespace ResourcePaths
namespace Json

/-- A field of a record. -/
structure FieldShape (ρ : Type) where
  /-- The name of the member. -/
  name : String
  /-- Whether the member has to be there. -/
  required : Bool
  /-- The record with the field read from a value. -/
  read : Json → ρ → Except Fault ρ
  /-- The value of the field; nothing where the member is left out. -/
  write : ρ → Option Json

namespace FieldShape

/-- A field with a decoder and an encoder. -/
def of {ρ α : Type} (name : String) (required : Bool) (decode : Json → Except Fault α)
    (encode : α → Option Json) (get : ρ → α) (set : ρ → α → ρ) : FieldShape ρ where
  name := name
  required := required
  read := fun value record => (decode value).map (set record)
  write := fun record => encode (get record)

/-- A string that has to be there. -/
def needed {ρ : Type} (name : String) (get : ρ → String) (set : ρ → String → ρ) : FieldShape ρ :=
  of name true asString (fun value => some (string value)) get set

/-- A string that may be missing. -/
def text {ρ : Type} (name : String) (get : ρ → String) (set : ρ → String → ρ) : FieldShape ρ :=
  of name false asString (fun value => some (string value)) get set

/-- A string that may be missing or `null`, and is then left out. -/
def maybeText {ρ : Type} (name : String) (get : ρ → Option String)
    (set : ρ → Option String → ρ) : FieldShape ρ :=
  of name false (asOption asString) (fun value => value.map string) get set

/-- A truth value that may be missing. -/
def flag {ρ : Type} (name : String) (get : ρ → Bool) (set : ρ → Bool → ρ) : FieldShape ρ :=
  of name false asBool (fun value => some (bool value)) get set

/-- A list that may be missing. -/
def list {ρ α : Type} (name : String) (decode : Json → Except Fault α) (encode : α → Json)
    (get : ρ → List α) (set : ρ → List α → ρ) : FieldShape ρ :=
  of name false (asList decode) (fun values => some (array (values.map encode))) get set

/-- A value that may be missing. -/
def value {ρ α : Type} (name : String) (decode : Json → Except Fault α) (encode : α → Json)
    (get : ρ → α) (set : ρ → α → ρ) : FieldShape ρ :=
  of name false decode (fun value => some (encode value)) get set

end FieldShape

/-- The description of a record. -/
structure Shape (ρ : Type) where
  /-- The record before anything is read. -/
  blank : ρ
  fields : List (FieldShape ρ)

namespace Shape

variable {ρ : Type}

/-- The record and the names seen, with one more member. -/
def take (shape : Shape ρ) (state : ρ × List String) (member : Member) :
    Except Fault (ρ × List String) := do
  let (record, seen) := state
  let name ← member.1
  match shape.fields.find? fun field => field.name = name with
  | none => do
    pass member.2.skipFault?
    pure (record, seen)
  | some field =>
    if seen.contains name then .error .wrongShape
    else do
      let record ← field.read member.2 record
      pure (record, name :: seen)

/-- Whether every field that has to be there has been seen. -/
def complete (shape : Shape ρ) (seen : List String) : Bool :=
  shape.fields.all fun field => !field.required || seen.contains field.name

/-- The fault of an item behind the last field of a record. -/
def surplusFault : Json → Fault
  | flaw reading _ => reading
  | _ => .surplus

/-- The record with fields read from items, one by one.  Only fields that may be missing may go
without an item. -/
def takeItems : List (FieldShape ρ) → List Json → ρ → Except Fault ρ
  | [], [], record => .ok record
  | [], item :: _, _ => .error (surplusFault item)
  | field :: fields, item :: items, record => do
    let record ← field.read item record
    takeItems fields items record
  | field :: fields, [], record =>
    if (field :: fields).any (·.required) then .error .wrongShape else .ok record

/-- The record that an object or an array writes. -/
def decode (shape : Shape ρ) : Json → Except Fault ρ
  | object members => do
    let (record, seen) ← members.foldlM shape.take (shape.blank, [])
    if shape.complete seen then pure record else .error .wrongShape
  | array items => takeItems shape.fields items shape.blank
  | other => other.mismatch

/-- The object that writes a record. -/
def encode (shape : Shape ρ) (record : ρ) : Json :=
  ofMembers (shape.fields.filterMap fun field =>
    (field.write record).map fun value => (field.name, value))

end Shape
end Json
end ResourcePaths
