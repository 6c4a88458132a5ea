import ResourcePaths.Model.Enumeration
import ResourcePaths.Model.Reference

/-!
# Structured types

Base types, properties and keys.  The walk along the base types ends on every graph of base
types: it stops where it would meet a type again.
-/

namespace ResourcePaths

/-- A structural property and its place: the type that declares it, and its position there. -/
structure StructuralProperty where
  /-- The number of the declaring type. -/
  declaring : ElementId
  /-- The position among the structural properties. -/
  position : Nat
  decl : Declared.Property
  deriving DecidableEq, Repr

/-- A navigation property and its place: the type that declares it, and its position there. -/
structure NavigationProperty where
  /-- The number of the declaring type. -/
  declaring : ElementId
  /-- The position among the navigation properties. -/
  position : Nat
  decl : Declared.NavigationProperty
  deriving DecidableEq, Repr

/-- A property of a structured type. -/
inductive Property where
  | structural (property : StructuralProperty)
  | navigation (property : NavigationProperty)
  deriving DecidableEq, Repr

namespace StructuralProperty

/-- The type of the values. -/
def referenceIn (context : Option Model) (property : StructuralProperty) :
    Resolved TypeReference :=
  TypeReference.resolveIn context property.decl.typeName property.decl.location fun model =>
    model.resolve property.decl.typeName property.decl.location

end StructuralProperty

namespace NavigationProperty

/-- Whether the property leads to several entities. -/
def isCollection (property : NavigationProperty) : Bool :=
  Name.isCollection property.decl.typeName

/-- The type of the target: an entity type or a collection of one. -/
def resolveTarget (model : Model) (property : NavigationProperty) : Resolved TypeReference :=
  let location := property.decl.location
  match Name.collectionItem? property.decl.typeName with
  | some item => (model.resolveStructured item .entity location .navigation).map .collection
  | none => model.resolveStructured property.decl.typeName .entity location .navigation

/-- The type of the target in a context. -/
def referenceIn (context : Option Model) (property : NavigationProperty) :
    Resolved TypeReference :=
  TypeReference.resolveIn context property.decl.typeName property.decl.location fun model =>
    property.resolveTarget model

end NavigationProperty

namespace Property

def name : Property → String
  | structural property => property.decl.name
  | navigation property => property.decl.name

/-- The place of the declaration. -/
def location : Property → Declared.Location
  | structural property => property.decl.location
  | navigation property => property.decl.location

/-- The number of the declaring type. -/
def declaring : Property → ElementId
  | structural property => property.declaring
  | navigation property => property.declaring

def structural? : Property → Option StructuralProperty
  | structural property => some property
  | navigation _ => none

def navigation? : Property → Option NavigationProperty
  | structural _ => none
  | navigation property => some property

/-- The type of the values or of the target. -/
def referenceIn (context : Option Model) : Property → Resolved TypeReference
  | structural property => property.referenceIn context
  | navigation property => property.referenceIn context

/-- The last property with a name; where none has it exactly, the last one whose name differs
in case only. -/
def find? (properties : List Property) (name : String) (ignoreCase : Bool) : Option Property :=
  let exact := properties.reverse.find? fun property => property.name = name
  if ignoreCase then
    exact.or (properties.reverse.find? fun property => Text.alike property.name name)
  else exact

/-- The structural properties with these names; a name without one is passed over. -/
def select (properties : List Property) (names : List String) : List StructuralProperty :=
  names.filterMap fun name => (find? properties name false).bind structural?

end Property

namespace StructuredType

/-- The properties that the type declares itself: structural ones first. -/
def declaredProperties (type : StructuredType) : List Property :=
  (type.decl.properties.zipIdx.map fun (decl, position) =>
    .structural ⟨type.id, position, decl⟩) ++
  (type.decl.navigationProperties.zipIdx.map fun (decl, position) =>
    .navigation ⟨type.id, position, decl⟩)

/-- The base type, where one is declared. -/
def baseReferenceIn (context : Option Model) (type : StructuredType) :
    Resolved (Option TypeReference) :=
  match type.decl.baseType with
  | none => .clean none
  | some name =>
    (TypeReference.resolveIn context name type.decl.location fun model =>
      model.resolveStructured name type.kind type.decl.location .plain).map some

/-- The properties of a type with these base types, nearest first: those of the farthest base
type come first, its own last. -/
def gatherProperties (type : StructuredType) (ancestors : List StructuredType) : List Property :=
  ancestors.reverse.flatMap declaredProperties ++ type.declaredProperties

/-- The names of the key of a type with these base types: the first of them that declares a
key counts. -/
def gatherKeyNames (type : StructuredType) (ancestors : List StructuredType) :
    Option (List String) :=
  type.decl.key.or (ancestors.findSome? fun ancestor => ancestor.decl.key)

/-- The problems of the key of an entity type. -/
def keyErrors (type : StructuredType) (properties : List Property)
    (keyNames : Option (List String)) : List ModelError :=
  match keyNames with
  | none =>
    if type.decl.isAbstract then [] else [⟨type.decl.location, .keyMissing type.fullName⟩]
  | some names =>
    (names.filter fun name =>
      ((Property.find? properties name false).bind Property.structural?).isNone).map
        fun name => ⟨type.decl.location, .keyPropertyNotFound name type.fullName⟩

/-- The problems of a type, from those of its parts. -/
def gatherErrors (type : StructuredType) (base duplicate : List ModelError) (cyclic : Bool)
    (properties : List Property) (declared : List ModelError)
    (keyNames : Option (List String)) : List ModelError :=
  base ++ duplicate ++
  (if cyclic then [⟨type.decl.location, .cyclicBase type.fullName⟩] else []) ++
  (repeatedBy Property.name [] properties).map
    (fun property => ⟨property.location, .duplicateProperty property.name type.fullName⟩) ++
  declared ++
  if type.kind = .entity && !cyclic then type.keyErrors properties keyNames else []

end StructuredType

namespace Model

/-- The base type of a type, where one is declared. -/
def baseType? (model : Model) (type : StructuredType) : Option ModelType :=
  (type.baseReferenceIn (some model)).value.map (·.follow (some model))

/-- The base type of a type, when it is structured. -/
def baseStructured? (model : Model) (type : StructuredType) : Option StructuredType :=
  (model.baseType? type).bind ModelType.structured?

/-- The walk along base types from a type on, over types that have not been met.  It gives the
types met, and whether it stopped because a type came again. -/
def climb (model : Model) (unmet : List ElementId) :
    Option StructuredType → List StructuredType × Bool
  | none => ([], false)
  | some type =>
    if type.id ∈ unmet then
      let (rest, cyclic) := model.climb (unmet.erase type.id) (model.baseStructured? type)
      (type :: rest, cyclic)
    else ([], true)
termination_by unmet.length
decreasing_by
  have := List.length_pos_of_mem ‹_›
  rw [List.length_erase_of_mem ‹_›]
  omega

/-- The numbers of the elements other than one. -/
def others (model : Model) (id : ElementId) : List ElementId :=
  (List.range model.elements.length).erase id

/-- The walk along the base types of a type. -/
def walk (model : Model) (type : StructuredType) : List StructuredType × Bool :=
  model.climb (model.others type.id) (model.baseStructured? type)

/-- The base types of a type, nearest first. -/
def ancestors (model : Model) (type : StructuredType) : List StructuredType :=
  (model.walk type).1

/-- Whether the base types of a type lead in a circle. -/
def isCyclic (model : Model) (type : StructuredType) : Bool :=
  (model.walk type).2

/-- Whether a type, or one of its base types, is open to properties that are not declared. -/
def isOpenStructured (model : Model) (type : StructuredType) : Bool :=
  type.decl.isOpen || (model.ancestors type).any fun ancestor => ancestor.decl.isOpen

/-- Whether a type is another one or has it among its base types. -/
def inherits (model : Model) (type other : StructuredType) : Bool :=
  type.id = other.id || (model.ancestors type).any fun ancestor => ancestor.id = other.id

/-- The properties of a type: inherited ones first. -/
def properties (model : Model) (type : StructuredType) : List Property :=
  type.gatherProperties (model.ancestors type)

def findProperty? (model : Model) (type : StructuredType) (name : String)
    (ignoreCase : Bool := false) : Option Property :=
  Property.find? (model.properties type) name ignoreCase

def keyNames? (model : Model) (type : StructuredType) : Option (List String) :=
  type.gatherKeyNames (model.ancestors type)

def key (model : Model) (type : StructuredType) : List StructuralProperty :=
  Property.select (model.properties type) ((model.keyNames? type).getD [])

def typeOf (model : Model) (property : Property) : ModelType :=
  (property.referenceIn (some model)).value.follow (some model)

def propertyErrors (model : Model) (property : Property) : List ModelError :=
  (property.referenceIn (some model)).errors

/-- The entity type that a navigation property leads to. -/
def targetEntity? (model : Model) (property : NavigationProperty) : Option StructuredType :=
  (model.typeOf (.navigation property)).itemType.entity?

/-- The navigation property that leads back. -/
def partner? (model : Model) (property : NavigationProperty) : Option NavigationProperty := do
  let name ← property.decl.partner
  let target ← model.targetEntity? property
  let found ← model.findProperty? target name
  found.navigation?

def structuredErrors (model : Model) (type : StructuredType) : List ModelError :=
  type.gatherErrors (type.baseReferenceIn (some model)).errors
    (model.duplicateErrors (.structured type) type.decl.location) (model.isCyclic type)
    (model.properties type) (type.declaredProperties.flatMap model.propertyErrors)
    (model.keyNames? type)

/-- Whether values of a type may have properties that are not declared. -/
def isOpen (model : Model) : ModelType → Bool
  | .structured type => model.isOpenStructured type
  | .untyped => true
  | _ => false

/-- Whether a value of the second type can stand where the first one is asked for. -/
def isAssignable (model : Model) : ModelType → ModelType → Bool
  | .bad _, _ => false
  | _, .bad _ => false
  | .untyped, _ => true
  | .primitive target, .primitive source => target = source
  | .structured target, .structured source =>
    target.kind = source.kind && model.inherits source target
  | .enum target, .enum source => target.id = source.id
  | .definition target, .definition source => target.id = source.id
  | .collection target, .collection source => model.isAssignable target source
  | _, _ => false

end Model
end ResourcePaths
