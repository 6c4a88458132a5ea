import ResourcePaths.Session.Structure

/-!
# Navigation sources in a session
-/

namespace ResourcePaths
namespace Session

/-- The entity type of a source with the problems of it. -/
def sourceReference (source : DeclaredSource) : Reading (Resolved TypeReference) :=
  rememberIn (.sourceEntity source) fun context => source.referenceIn context

/-- The bindings of a source whose targets exist, and the problems of the others. -/
def bindings (source : DeclaredSource) : Reading (Resolved (List ResolvedBinding)) :=
  rememberIn (.bindings source) fun context => source.bindingsIn context

def sourceEntity? : NavigationSource → Reading (Option StructuredType)
  | .declared source => do return (← follow (← sourceReference source).value).entity?
  | .unknown _ property => targetEntity? property

/-- The type of the entities of a source, as a collection for an entity set. -/
def sourceType : NavigationSource → Reading ModelType
  | .declared source => do return source.typeWith (← follow (← sourceReference source).value)
  | .unknown _ property => typeOf (.navigation property)

/-- The source that a navigation property leads to from a source, when a binding tells. -/
def navigationTarget? (source : NavigationSource) (property : NavigationProperty) :
    Reading (Option NavigationSource) := do
  match source with
  | .declared source =>
    let bindings := (← bindings source).value
    return (bindingSource? (← context) bindings property).map .declared
  | .unknown _ _ => return none

/-- The unknown source behind a source and navigation properties of the entity types on the
way, given by their names. -/
def unknownSource? (source : NavigationSource) : List String → Reading (Option NavigationSource)
  | [] => return some source
  | name :: rest => do
    match ← sourceEntity? source with
    | none => return none
    | some entity =>
      match (← findProperty? entity name).bind Property.navigation? with
      | some property => unknownSource? (.unknown source property) rest
      | none => return none

def sourceErrors (source : DeclaredSource) : Reading (List ModelError) :=
  remember (.sourceErrors source) do
    let entity := (← sourceReference source).errors
    let bindings := (← bindings source).errors
    return entity ++ bindings

end Session
end ResourcePaths
