import ResourcePaths.Declared.Basic
import ResourcePaths.Json.Reader
import ResourcePaths.Json.Record
import ResourcePaths.Number.Integer

/-!
# Descriptions in JSON

How a schema description is read from a JSON value and written as one.
-/

namespace ResourcePaths
namespace Declared

open Json (Fault FieldShape Shape)

/-- A number of a line or a column. -/
def count {ρ : Type} (name : String) (get : ρ → UInt32) (set : ρ → UInt32 → ρ) : FieldShape ρ :=
  .of name false
    (fun value => (value.asInteger (Integer.inUnsigned 32)).map fun n =>
      UInt32.ofNat n.toNat)
    (fun n => some (.integer n.toNat)) get set

/-- The fields of a location. -/
def Location.shape : Shape Location where
  blank := {}
  fields := [
    .maybeText "source" (·.source) fun r v => { r with source := v },
    count "line" (·.line) fun r v => { r with line := v },
    count "column" (·.column) fun r v => { r with column := v }]

def locationField {ρ : Type} (get : ρ → Location) (set : ρ → Location → ρ) : FieldShape ρ :=
  .value "location" Location.shape.decode Location.shape.encode get set

def names {ρ : Type} (name : String) (get : ρ → List String) (set : ρ → List String → ρ) :
    FieldShape ρ :=
  .list name Json.asString Json.string get set

def records {ρ α : Type} (name : String) (shape : Shape α) (get : ρ → List α)
    (set : ρ → List α → ρ) : FieldShape ρ :=
  .list name shape.decode shape.encode get set

/-- The fields of a structural property. -/
def Property.shape : Shape Property where
  blank := { name := "", typeName := "" }
  fields := [
    .needed "name" (·.name) fun r v => { r with name := v },
    .needed "type" (·.typeName) fun r v => { r with typeName := v },
    .flag "nullable" (·.nullable) fun r v => { r with nullable := v },
    .maybeText "default_value" (·.defaultValue) fun r v => { r with defaultValue := v },
    locationField (·.location) fun r v => { r with location := v }]

/-- The fields of a navigation property. -/
def NavigationProperty.shape : Shape NavigationProperty where
  blank := { name := "", typeName := "" }
  fields := [
    .needed "name" (·.name) fun r v => { r with name := v },
    .needed "type" (·.typeName) fun r v => { r with typeName := v },
    .flag "nullable" (·.nullable) fun r v => { r with nullable := v },
    .maybeText "partner" (·.partner) fun r v => { r with partner := v },
    .flag "contains_target" (·.containsTarget) fun r v => { r with containsTarget := v },
    locationField (·.location) fun r v => { r with location := v }]

/-- The fields of a structured type. -/
def StructuredType.shape : Shape StructuredType where
  blank := {}
  fields := [
    .text "name" (·.name) fun r v => { r with name := v },
    .maybeText "base_type" (·.baseType) fun r v => { r with baseType := v },
    .flag "is_abstract" (·.isAbstract) fun r v => { r with isAbstract := v },
    .flag "is_open" (·.isOpen) fun r v => { r with isOpen := v },
    .of "key" false (Json.asOption (Json.asList Json.asString))
      (fun key => key.map fun names => .array (names.map .string))
      (·.key) fun r v => { r with key := v },
    records "properties" Property.shape (·.properties) fun r v => { r with properties := v },
    records "navigation_properties" NavigationProperty.shape (·.navigationProperties)
      fun r v => { r with navigationProperties := v },
    locationField (·.location) fun r v => { r with location := v }]

/-- The fields of a member of an enumeration type. -/
def EnumMember.shape : Shape EnumMember where
  blank := { name := "" }
  fields := [
    .needed "name" (·.name) fun r v => { r with name := v },
    .of "value" false
      (Json.asOption fun value =>
        (value.asInteger (Integer.inSigned 64)).map Int64.ofInt)
      (fun value => value.map fun n => .integer n.toInt)
      (·.value) fun r v => { r with value := v }]

/-- The fields of an enumeration type. -/
def EnumType.shape : Shape EnumType where
  blank := {}
  fields := [
    .text "name" (·.name) fun r v => { r with name := v },
    .maybeText "underlying_type" (·.underlyingType) fun r v => { r with underlyingType := v },
    .flag "is_flags" (·.isFlags) fun r v => { r with isFlags := v },
    records "members" EnumMember.shape (·.members) fun r v => { r with members := v },
    locationField (·.location) fun r v => { r with location := v }]

/-- The fields of a type definition. -/
def TypeDefinition.shape : Shape TypeDefinition where
  blank := {}
  fields := [
    .text "name" (·.name) fun r v => { r with name := v },
    .text "underlying_type" (·.underlyingType) fun r v => { r with underlyingType := v },
    locationField (·.location) fun r v => { r with location := v }]

/-- The fields of a parameter. -/
def Parameter.shape : Shape Parameter where
  blank := { name := "", typeName := "" }
  fields := [
    .needed "name" (·.name) fun r v => { r with name := v },
    .needed "type" (·.typeName) fun r v => { r with typeName := v },
    .flag "nullable" (·.nullable) fun r v => { r with nullable := v }]

/-- The fields of a result. -/
def ReturnType.shape : Shape ReturnType where
  blank := { typeName := "" }
  fields := [
    .needed "type" (·.typeName) fun r v => { r with typeName := v },
    .flag "nullable" (·.nullable) fun r v => { r with nullable := v }]

/-- The fields of an operation. -/
def Operation.shape : Shape Operation where
  blank := {}
  fields := [
    .text "name" (·.name) fun r v => { r with name := v },
    .flag "is_bound" (·.isBound) fun r v => { r with isBound := v },
    .flag "is_composable" (·.isComposable) fun r v => { r with isComposable := v },
    .maybeText "entity_set_path" (·.entitySetPath) fun r v => { r with entitySetPath := v },
    records "parameters" Parameter.shape (·.parameters) fun r v => { r with parameters := v },
    .of "return_type" false (Json.asOption ReturnType.shape.decode)
      (fun result => result.map ReturnType.shape.encode)
      (·.returnType) fun r v => { r with returnType := v },
    locationField (·.location) fun r v => { r with location := v }]

/-- The fields of a term. -/
def Term.shape : Shape Term where
  blank := {}
  fields := [
    .text "name" (·.name) fun r v => { r with name := v },
    .text "type" (·.typeName) fun r v => { r with typeName := v },
    names "applies_to" (·.appliesTo) fun r v => { r with appliesTo := v },
    .maybeText "default_value" (·.defaultValue) fun r v => { r with defaultValue := v },
    locationField (·.location) fun r v => { r with location := v }]

/-- The fields of a navigation binding. -/
def Binding.shape : Shape Binding where
  blank := { path := "", target := "" }
  fields := [
    .needed "path" (·.path) fun r v => { r with path := v },
    .needed "target" (·.target) fun r v => { r with target := v }]

/-- The fields of an entity set. -/
def EntitySet.shape : Shape EntitySet where
  blank := { name := "", entityType := "" }
  fields := [
    .needed "name" (·.name) fun r v => { r with name := v },
    .needed "entity_type" (·.entityType) fun r v => { r with entityType := v },
    records "navigation_property_bindings" Binding.shape (·.bindings)
      fun r v => { r with bindings := v },
    .flag "include_in_service_document" (·.includeInServiceDocument)
      fun r v => { r with includeInServiceDocument := v },
    locationField (·.location) fun r v => { r with location := v }]

/-- The fields of a singleton. -/
def Singleton.shape : Shape Singleton where
  blank := { name := "", typeName := "" }
  fields := [
    .needed "name" (·.name) fun r v => { r with name := v },
    .needed "type" (·.typeName) fun r v => { r with typeName := v },
    records "navigation_property_bindings" Binding.shape (·.bindings)
      fun r v => { r with bindings := v },
    locationField (·.location) fun r v => { r with location := v }]

/-- The fields of an import of actions. -/
def ActionImport.shape : Shape ActionImport where
  blank := { name := "", action := "" }
  fields := [
    .needed "name" (·.name) fun r v => { r with name := v },
    .needed "action" (·.action) fun r v => { r with action := v },
    .maybeText "entity_set" (·.entitySet) fun r v => { r with entitySet := v },
    locationField (·.location) fun r v => { r with location := v }]

/-- The fields of an import of functions. -/
def FunctionImport.shape : Shape FunctionImport where
  blank := { name := "", function := "" }
  fields := [
    .needed "name" (·.name) fun r v => { r with name := v },
    .needed "function" (·.function) fun r v => { r with function := v },
    .maybeText "entity_set" (·.entitySet) fun r v => { r with entitySet := v },
    .flag "include_in_service_document" (·.includeInServiceDocument)
      fun r v => { r with includeInServiceDocument := v },
    locationField (·.location) fun r v => { r with location := v }]

/-- The fields of an entity container. -/
def Container.shape : Shape Container where
  blank := {}
  fields := [
    .text "name" (·.name) fun r v => { r with name := v },
    records "entity_sets" EntitySet.shape (·.entitySets) fun r v => { r with entitySets := v },
    records "singletons" Singleton.shape (·.singletons) fun r v => { r with singletons := v },
    records "action_imports" ActionImport.shape (·.actionImports)
      fun r v => { r with actionImports := v },
    records "function_imports" FunctionImport.shape (·.functionImports)
      fun r v => { r with functionImports := v },
    locationField (·.location) fun r v => { r with location := v }]

def ConstantKind.name : ConstantKind → String
  | binary => "binary"
  | boolean => "boolean"
  | date => "date"
  | dateTimeOffset => "date_time_offset"
  | decimal => "decimal"
  | duration => "duration"
  | floating => "floating"
  | guid => "guid"
  | integer => "integer"
  | string => "string"
  | timeOfDay => "time_of_day"

def ConstantKind.all : List ConstantKind :=
  [binary, boolean, date, dateTimeOffset, decimal, duration, floating, guid, integer, string,
   timeOfDay]

def ConstantKind.ofName? (name : String) : Option ConstantKind :=
  all.find? fun kind => kind.name = name

/-- A value or a fault of shape. -/
def orWrongShape {α : Type} : Option α → Except Fault α
  | some value => .ok value
  | none => .error .wrongShape

/-- The kind of constants that a value names: as a string, or as the only member of an object
that has nothing to say about it. -/
def ConstantKind.decode : Json → Except Fault ConstantKind
  | .string name => orWrongShape (ofName? name)
  | .object [(.ok name, .null)] => orWrongShape (ofName? name)
  | .object [(.ok name, .object [])] => orWrongShape (ofName? name)
  | other => other.mismatch

/-- The fields of a constant. -/
def Constant.shape : Shape Constant where
  blank := { kind := .string, text := "" }
  fields := [
    .of "kind" true ConstantKind.decode (fun kind => some (.string kind.name))
      (·.kind) fun r v => { r with kind := v },
    .needed "value" (·.text) fun r v => { r with text := v },
    locationField (·.location) fun r v => { r with location := v }]

/-- The forms of expressions. -/
inductive ExpressionForm where
  | constant
  | path
  | operationReference
  | collection
  | null
  deriving DecidableEq, Repr

def ExpressionForm.all : List ExpressionForm :=
  [constant, path, operationReference, collection, null]

def ExpressionForm.tag : ExpressionForm → String
  | constant => "constant"
  | path => "path"
  | operationReference => "operation_reference"
  | collection => "collection"
  | null => "null"

/-- The name of the member that tells the form. -/
def tagName : String := "tag"

/-- The form that the tag of an expression names.  An expression inside a collection may give
the place of the form in the list of forms instead. -/
def ExpressionForm.decode (inside : Bool) : Json → Except Fault ExpressionForm
  | .string tag => orWrongShape (all.find? fun form => form.tag = tag)
  | .integer place =>
    if inside && 0 ≤ place then orWrongShape all[place.toNat]? else .error .wrongShape
  | other => other.mismatch

/-- How often a name occurs among members. -/
def occurrences (name : String) (members : List Json.Member) : Nat :=
  (members.filter fun member => match member.1 with
    | .ok found => found = name
    | .error _ => false).length

/-- Reads the members of an expression in their order: the tag as a tag, which must not come
twice, and all others as values of any shape. -/
def readExpressionMembers (tagged : Bool) : List Json.Member → Except Fault Unit
  | [] => .ok ()
  | (.error fault, _) :: _ => .error fault
  | (.ok name, value) :: rest =>
    if name = tagName then
      if tagged then .error .wrongShape
      else do
        let _ ← ExpressionForm.decode false value
        readExpressionMembers true rest
    else do
      Json.pass value.readFault?
      readExpressionMembers tagged rest

/-- The fields of a path expression. -/
def pathShape : Shape (String × Location) where
  blank := ("", {})
  fields := [
    .needed "path" (·.1) fun r v => (v, r.2),
    locationField (·.2) fun r v => (r.1, v)]

/-- The fields of a reference to an operation. -/
def operationReferenceShape : Shape (String × Location) where
  blank := ("", {})
  fields := [
    .needed "operation" (·.1) fun r v => (v, r.2),
    locationField (·.2) fun r v => (r.1, v)]

/-- The fields of a collection, with its items as they are. -/
def collectionShape : Shape (Json × Location) where
  blank := (.null, {})
  fields := [
    .of "items" true (fun items => .ok items) (fun items => some items) (·.1)
      fun r v => (v, r.2),
    locationField (·.2) fun r v => (r.1, v)]

/-- The fields of an expression without a value. -/
def nullShape : Shape Location where
  blank := {}
  fields := [locationField id fun _ v => v]

/-- Reads an expression to its end and gives the form that its tag names.  The tag is a member of an
object, and the first item of an array; `inside` a collection all faults of the text have been met
already. -/
def readForm (inside : Bool) : Json → Except Fault ExpressionForm
  | .object members => do
    if !inside then readExpressionMembers false members
    if occurrences tagName members ≠ 1 then .error .wrongShape
    ExpressionForm.decode inside (← orWrongShape (Json.member? tagName members))
  | .array [] => .error .wrongShape
  | .array (tag :: fields) => do
    let form ← ExpressionForm.decode inside tag
    Json.pass (Json.readItems? fields)
    pure form
  | other => other.mismatch

/-- The fields of an expression: a whole object, as no field has the name of the tag, and the items
behind the first one of an array. -/
def behindTag : Json → Json
  | .array (_ :: fields) => .array fields
  | other => other

/-- The items among the fields of a collection. -/
def itemsOf? : Json → Option (List Json)
  | .object members =>
    match Json.member? "items" members with
    | some (.array items) => some items
    | _ => none
  | .array (.array items :: _) => some items
  | _ => none

theorem sizeOf_behindTag (json : Json) : sizeOf (behindTag json) ≤ sizeOf json := by
  unfold behindTag
  split
  · simp only [Json.array.sizeOf_spec, List.cons.sizeOf_spec]
    omega
  · exact Nat.le_refl _

theorem sizeOf_itemsOf? {fields : Json} {items : List Json} (h : itemsOf? fields = some items) :
    sizeOf items < sizeOf fields := by
  unfold itemsOf? at h
  split at h
  · split at h
    · rename_i hfound
      obtain rfl := Option.some.inj h
      have hmember := Json.sizeOf_member? hfound
      simp only [Json.array.sizeOf_spec] at hmember
      simp only [Json.object.sizeOf_spec]
      omega
    · contradiction
  · obtain rfl := Option.some.inj h
    simp only [Json.array.sizeOf_spec, List.cons.sizeOf_spec]
    omega
  · contradiction

/-- The expression of a form that fields write.  Its items are read for a collection only. -/
def Expression.ofFields (fields : Json) (items : Unit → Except Fault (List Expression)) :
    ExpressionForm → Except Fault Expression
  | .constant => (Constant.shape.decode fields).map .constant
  | .path => (pathShape.decode fields).map fun (text, location) => .path text location
  | .operationReference =>
    (operationReferenceShape.decode fields).map fun (name, location) =>
      .operationReference name location
  | .collection => do
    let (_, location) ← collectionShape.decode fields
    pure (.collection (← items ()) location)
  | .null => (nullShape.decode fields).map .null

/-- The expression that a value writes.  Its text is read to the end before its fields are looked
at, so that whatever is wrong with them is a fault of shape. -/
def Expression.decode (inside : Bool) (json : Json) : Except Fault Expression := do
  let form ← readForm inside json
  let items := fun _ =>
    match _hitems : itemsOf? (behindTag json) with
    | some items => items.attach.mapM fun ⟨item, _⟩ => Expression.decode true item
    | none => .error .wrongShape
  (ofFields (behindTag json) items form).mapError fun _ => .wrongShape
termination_by json
decreasing_by
  have hitem := List.sizeOf_lt_of_mem ‹_ ∈ items›
  have hitems := sizeOf_itemsOf? _hitems
  have hfields := sizeOf_behindTag json
  omega

/-- An object with a tag in front of its members. -/
def withTag (form : ExpressionForm) : Json → Json
  | .object members => .object ((.ok tagName, .string form.tag) :: members)
  | other => other

mutual

/-- The object that writes an expression. -/
def Expression.encode : Expression → Json
  | .constant value => withTag .constant (Constant.shape.encode value)
  | .path path location => withTag .path (pathShape.encode (path, location))
  | .operationReference operation location =>
    withTag .operationReference (operationReferenceShape.encode (operation, location))
  | .collection items location =>
    withTag .collection (collectionShape.encode (.array (encodeItems items), location))
  | .null location => withTag .null (nullShape.encode location)

/-- The objects that write expressions. -/
def encodeItems : List Expression → List Json
  | [] => []
  | item :: rest => item.encode :: encodeItems rest

end

/-- The fields of an annotation. -/
def Annotation.shape : Shape Annotation where
  blank := { term := "", expression := .null {} }
  fields := [
    .needed "term" (·.term) fun r v => { r with term := v },
    .maybeText "qualifier" (·.qualifier) fun r v => { r with qualifier := v },
    .of "expression" true (Expression.decode false) (fun value => some value.encode)
      (·.expression) fun r v => { r with expression := v },
    locationField (·.location) fun r v => { r with location := v }]

/-- The fields of the annotations of one target. -/
def AnnotationGroup.shape : Shape AnnotationGroup where
  blank := {}
  fields := [
    .text "target" (·.target) fun r v => { r with target := v },
    records "annotations" Annotation.shape (·.annotations) fun r v => { r with annotations := v },
    locationField (·.location) fun r v => { r with location := v }]

/-- The fields of a schema. -/
def Schema.shape : Shape Schema where
  blank := {}
  fields := [
    .text "namespace" (·.namespaceName) fun r v => { r with namespaceName := v },
    .maybeText "alias" (·.shortName) fun r v => { r with shortName := v },
    records "entity_types" StructuredType.shape (·.entityTypes)
      fun r v => { r with entityTypes := v },
    records "complex_types" StructuredType.shape (·.complexTypes)
      fun r v => { r with complexTypes := v },
    records "enum_types" EnumType.shape (·.enumTypes) fun r v => { r with enumTypes := v },
    records "type_definitions" TypeDefinition.shape (·.typeDefinitions)
      fun r v => { r with typeDefinitions := v },
    records "actions" Operation.shape (·.actions) fun r v => { r with actions := v },
    records "functions" Operation.shape (·.functions) fun r v => { r with functions := v },
    records "terms" Term.shape (·.terms) fun r v => { r with terms := v },
    records "entity_containers" Container.shape (·.containers)
      fun r v => { r with containers := v },
    records "annotations" AnnotationGroup.shape (·.annotations)
      fun r v => { r with annotations := v },
    locationField (·.location) fun r v => { r with location := v }]

/-- The fields of a description. -/
def Description.shape : Shape Description where
  blank := {}
  fields := [
    records "schemas" Schema.shape (·.schemas) fun r v => { r with schemas := v }]

/-- The description that a value writes. -/
def Description.decode (json : Json) : Except Fault Description :=
  Description.shape.decode json

/-- The value that writes a description. -/
def Description.encode (description : Description) : Json :=
  Description.shape.encode description

/-- The description that a text writes. -/
def Description.ofText (text : String) : Except Fault Description :=
  Json.decodeText Description.decode text

end Declared
end ResourcePaths
