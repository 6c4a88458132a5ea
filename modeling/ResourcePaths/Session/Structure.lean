import ResourcePaths.Session.Basic

/-!
# Structured types in a session

Base types, properties and keys, as `Model.ancestors`, `Model.properties` and their companions
give them, but remembered.
-/

namespace ResourcePaths
namespace Session

/-- The base type of a type with the problems of it. -/
def baseReference (type : StructuredType) : Reading (Resolved (Option TypeReference)) :=
  rememberIn (.base type) fun context => type.baseReferenceIn context

/-- The base type of a type, where one is declared. -/
def baseType? (type : StructuredType) : Reading (Option ModelType) := do
  let reference := (← baseReference type).value
  let context ← context
  return reference.map (·.follow context)

/-- The base type of a type, when it is structured. -/
def baseStructured? (type : StructuredType) : Reading (Option StructuredType) :=
  return (← baseType? type).bind ModelType.structured?

/-- The walk along base types from a type on, over types that have not been met.  It gives the
types met, and whether it stopped because a type came again. -/
def climb (unmet : List ElementId) :
    Option StructuredType → Reading (List StructuredType × Bool)
  | none => return ([], false)
  | some type =>
    if type.id ∈ unmet then do
      let next ← baseStructured? type
      let (rest, cyclic) ← climb (unmet.erase type.id) next
      return (type :: rest, cyclic)
    else return ([], true)
termination_by unmet.length
decreasing_by
  have := List.length_pos_of_mem ‹_›
  rw [List.length_erase_of_mem ‹_›]
  omega

/-- The walk along the base types of a type. -/
def walk (type : StructuredType) : Reading (List StructuredType × Bool) := do
  let next ← baseStructured? type
  let unmet := match ← context with
    | some model => model.others type.id
    | none => []
  climb unmet next

/-- The base types of a type, nearest first. -/
def ancestors (type : StructuredType) : Reading (List StructuredType) :=
  return (← walk type).1

/-- Whether a type, or one of its base types, is open to properties that are not declared. -/
def isOpenStructured (type : StructuredType) : Reading Bool := do
  if type.decl.isOpen then return true
  return (← ancestors type).any fun ancestor => ancestor.decl.isOpen

/-- Whether a type is another one or has it among its base types. -/
def inherits (type other : StructuredType) : Reading Bool := do
  if type.id = other.id then return true
  return (← ancestors type).any fun ancestor => ancestor.id = other.id

/-- The properties of a type: inherited ones first. -/
def properties (type : StructuredType) : Reading (List Property) :=
  remember (.properties type) do return type.gatherProperties (← ancestors type)

def findProperty? (type : StructuredType) (name : String) (ignoreCase : Bool := false) :
    Reading (Option Property) :=
  return Property.find? (← properties type) name ignoreCase

/-- The names of the key of a type.  Base types are read only for a type without a key of its
own. -/
def keyNames? (type : StructuredType) : Reading (Option (List String)) := do
  match type.decl.key with
  | some names => return some names
  | none => return type.gatherKeyNames (← ancestors type)

/-- The key properties of a type.  Properties are read only where there are names to look
for. -/
def key (type : StructuredType) : Reading (List StructuralProperty) := do
  match (← keyNames? type).getD [] with
  | [] => return []
  | names => return Property.select (← properties type) names

/-- The type of a property with the problems of it. -/
def propertyReference (property : Property) : Reading (Resolved TypeReference) :=
  rememberIn (.propertyType property) fun context => property.referenceIn context

def typeOf (property : Property) : Reading ModelType := do
  follow (← propertyReference property).value

def propertyErrors (property : Property) : Reading (List ModelError) :=
  return (← propertyReference property).errors

/-- The type that declares a property. -/
def declaringType? (property : Property) : Reading (Option StructuredType) :=
  return (← context).bind fun model => model.structured? property.declaring

/-- The entity type that a navigation property leads to. -/
def targetEntity? (property : NavigationProperty) : Reading (Option StructuredType) :=
  return (← typeOf (.navigation property)).itemType.entity?

/-- The navigation property that leads back.  The target is read only where a name is given. -/
def partner? (property : NavigationProperty) : Reading (Option NavigationProperty) := do
  match property.decl.partner with
  | none => return none
  | some name =>
    match ← targetEntity? property with
    | none => return none
    | some target => return (← findProperty? target name).bind Property.navigation?

def structuredErrors (type : StructuredType) : Reading (List ModelError) :=
  remember (.elementErrors (.structured type)) do
    let base := (← baseReference type).errors
    let duplicate :=
      Model.duplicateErrorsIn (← context) (.structured type) type.decl.location
    let (_, cyclic) ← walk type
    let properties ← properties type
    let declared ← type.declaredProperties.flatMapM propertyErrors
    let keyNames ← keyNames? type
    return type.gatherErrors base duplicate cyclic properties declared keyNames

/-- Whether values of a type may have properties that are not declared. -/
def isOpen : ModelType → Reading Bool
  | .structured type => isOpenStructured type
  | .untyped => return true
  | _ => return false

/-- Whether a value of the second type can stand where the first one is asked for. -/
def isAssignable : ModelType → ModelType → Reading Bool
  | .bad _, _ => return false
  | _, .bad _ => return false
  | .untyped, _ => return true
  | .primitive target, .primitive source => return target = source
  | .structured target, .structured source =>
    if target.kind = source.kind then inherits source target else return false
  | .enum target, .enum source => return target.id = source.id
  | .definition target, .definition source => return target.id = source.id
  | .collection target, .collection source => isAssignable target source
  | _, _ => return false

end Session
end ResourcePaths
