import ResourcePaths.Binding.Error
import ResourcePaths.Binding.Segment
import ResourcePaths.Calendar.Duration

/-!
# Keys

The values behind a token that leads to a collection of entities pick one of them: each key
property needs exactly one value that fits its type.
-/

namespace ResourcePaths

namespace Primitive

/-- Whether a literal writes a value of a primitive type. -/
def accepts (primitive : Primitive) (literal : Literal) : Bool :=
  match primitive, literal with
  | boolean, .boolean _ => true
  | decimal, .integer _ | decimal, .decimal _ => true
  | double, .integer _ | double, .decimal _ => true
  | single, .integer _ | single, .decimal _ => true
  | string, .string _ => true
  | guid, .guid _ => true
  | date, .date _ => true
  | dateTimeOffset, .dateTimeOffset _ => true
  | timeOfDay, .timeOfDay _ => true
  | duration, .duration text => (Duration.ofText? text.toList).isSome
  | other, .integer value => other.range?.any fun isInRange => isInRange value.toInt
  | _, _ => false

end Primitive

namespace Model

/-- The types that a qualified name stands for in a path: a primitive type, or those of the
model. -/
def typesNamed (model : Model) (ignoreCase : Bool) (name : String) : List ModelType :=
  match Primitive.ofName? name with
  | some primitive => [.primitive primitive]
  | none => (model.find name ignoreCase).filterMap Element.type?

/-- The type that a qualified name stands for in a path, when it is the only one. -/
def onlyTypeNamed? (model : Model) (ignoreCase : Bool) (name : String) : Option ModelType :=
  match model.typesNamed ignoreCase name with
  | [type] => some type
  | _ => none

/-- Whether a literal writes a value of a type. -/
def fits (model : Model) (ignoreCase : Bool) (type : ModelType) (literal : Literal) : Bool :=
  match type with
  | .primitive primitive => primitive.accepts literal
  | .definition definition =>
    definition.underlyingType?.any fun primitive => primitive.accepts literal
  | .enum enumType =>
    match literal with
    | .enum typeName member =>
      model.onlyTypeNamed? ignoreCase typeName = some type &&
        (enumType.findMember? member).isSome
    | .string member => (enumType.findMember? member).isSome
    | _ => false
  | _ => false

/-- The key property that a value belongs to.  A value without a name belongs to the first
one. -/
def keyProperty (ignoreCase : Bool) (entity : StructuredType) (key : List StructuralProperty)
    (value : NamedValue) : Except KeyFault StructuralProperty :=
  match value.name, key with
  | none, first :: _ => .ok first
  | none, [] => .error .positional
  | some name, _ =>
    match findNamed? (fun property : StructuralProperty => property.decl.name) key name
        ignoreCase with
    | some property => .ok property
    | none => .error (.unknownProperty name entity.fullName)

/-- The value of a key property, when none of the names in front is that of the property. -/
def keyValue (model : Model) (ignoreCase : Bool) (seen : List String)
    (property : StructuralProperty) (value : NamedValue) : Except KeyFault KeyValue :=
  let name := property.decl.name
  if seen.contains name then .error (.repeatedProperty name)
  else
    match Literal.ofText? value.value with
    | none => .error (.invalidLiteral value.value)
    | some literal =>
      let type := model.typeOf (.structural property)
      if model.fits ignoreCase type literal then .ok ⟨name, literal, value.value⟩
      else .error (.wrongType value.value type.fullName name)

/-- The values of key properties in the order of the path. -/
def keyValues (model : Model) (ignoreCase : Bool) (entity : StructuredType)
    (key : List StructuralProperty) (seen : List String) :
    List NamedValue → Except KeyFault (List KeyValue)
  | [] => .ok []
  | value :: rest => do
    let property ← keyProperty ignoreCase entity key value
    let first ← model.keyValue ignoreCase seen property value
    let others ← model.keyValues ignoreCase entity key (first.name :: seen) rest
    return first :: others

/-- The key of an entity type that values write. -/
def entityKey (model : Model) (ignoreCase : Bool) (entity : StructuredType)
    (values : List NamedValue) : Except KeyFault (List KeyValue) :=
  let key := model.key entity
  if values.length ≠ key.length then
    .error (.wrongCount entity.fullName key.length values.length)
  else if 1 < key.length && values.any (·.name.isNone) then .error .positional
  else model.keyValues ignoreCase entity key [] values

/-- The key that values write at a place. -/
def keyAt (model : Model) (ignoreCase : Bool) (place : Place) (values : List NamedValue) :
    Except KeyFault (List KeyValue) :=
  match place.type, place.cardinality with
  | some type, .collection =>
    match type.entity? with
    | some entity => model.entityKey ignoreCase entity values
    | none => .error (.notEntity type.fullName)
  | _, _ => .error .notCollection

end Model
end ResourcePaths
