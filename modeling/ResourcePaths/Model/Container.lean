import ResourcePaths.Model.Structure

/-!
# Containers and navigation sources

Entity sets and singletons are the sources that a container declares.  Navigation from a source
leads to the source that one of its bindings names; where there is none, to an unknown source,
which knows the way by which it was reached and nothing more.
-/

namespace ResourcePaths

/-- The two kinds of sources that a container declares. -/
inductive SourceKind where
  | entitySet
  | singleton
  deriving DecidableEq, Repr

/-- An entity set or a singleton and its place in its container. -/
structure DeclaredSource where
  container : ElementId
  /-- Whether it is an entity set or a singleton. -/
  kind : SourceKind
  /-- The position among the sources of its kind. -/
  position : Nat
  name : String
  /-- The name of the entity type. -/
  typeName : String
  /-- The bindings in their order. -/
  bindings : List Declared.Binding
  /-- Whether an entity set is shown in the service document. -/
  isListed : Bool
  /-- The place of the declaration. -/
  location : Declared.Location
  deriving DecidableEq, Repr

/-- What entities are reached through. -/
inductive NavigationSource where
  /-- An entity set or a singleton. -/
  | declared (source : DeclaredSource)
  /-- What a navigation property leads to from a source that has no binding for it. -/
  | unknown (parent : NavigationSource) (property : NavigationProperty)
  deriving DecidableEq, Repr

/-- A binding whose target exists. -/
structure ResolvedBinding where
  path : String
  /-- The number of the container of the target. -/
  container : ElementId
  /-- The name of the target in that container. -/
  target : String
  deriving DecidableEq, Repr

/-- The first item with a name; where none has it exactly, the first one whose name differs in
case only. -/
def findNamed? {α : Type} (nameOf : α → String) (items : List α) (name : String)
    (ignoreCase : Bool) : Option α :=
  let exact := items.find? fun item => nameOf item = name
  if ignoreCase then exact.or (items.find? fun item => Text.alike (nameOf item) name)
  else exact

namespace Container

def entitySets (container : Container) : List DeclaredSource :=
  container.decl.entitySets.zipIdx.map fun (decl, position) =>
    ⟨container.id, .entitySet, position, decl.name, decl.entityType, decl.bindings,
      decl.includeInServiceDocument, decl.location⟩

def singletons (container : Container) : List DeclaredSource :=
  container.decl.singletons.zipIdx.map fun (decl, position) =>
    ⟨container.id, .singleton, position, decl.name, decl.typeName, decl.bindings, false,
      decl.location⟩

def findEntitySet? (container : Container) (name : String) (ignoreCase : Bool := false) :
    Option DeclaredSource :=
  findNamed? DeclaredSource.name container.entitySets name ignoreCase

def findSingleton? (container : Container) (name : String) (ignoreCase : Bool := false) :
    Option DeclaredSource :=
  findNamed? DeclaredSource.name container.singletons name ignoreCase

/-- The source with a name: an entity set rather than a singleton. -/
def findSource? (container : Container) (name : String) (ignoreCase : Bool := false) :
    Option DeclaredSource :=
  (container.findEntitySet? name ignoreCase).or (container.findSingleton? name ignoreCase)

end Container

namespace NavigationSource

def name : NavigationSource → String
  | declared source => source.name
  | unknown _ property => property.decl.name

/-- The way to the source: a name in a container, and the navigation properties behind it. -/
def path : NavigationSource → List String
  | declared source => [source.name]
  | unknown parent property => parent.path ++ [property.decl.name]

def isUnknown : NavigationSource → Bool
  | declared _ => false
  | unknown _ _ => true

/-- Whether two sources are one.  Unknown sources never are: each of them is made anew by the
navigation that leads to it. -/
def isSame : NavigationSource → NavigationSource → Bool
  | declared left, declared right =>
    left.kind = right.kind && left.container = right.container && left.position = right.position
  | _, _ => false

end NavigationSource

namespace Model

/-- The container that a name in a binding refers to, by its simple or its qualified name. -/
def bindingContainer? (model : Model) (name : String) : Option Container :=
  model.containers.find? fun container =>
    container.decl.name = name || container.fullName = model.normalize name

/-- The container and the name of the source that a binding leads to: one in the container of
the binding, or one in the container named in front of the first slash. -/
def bindingTarget? (model : Model) (own : ElementId) (target : String) :
    Option (ElementId × String) :=
  let found : Option (Container × String) :=
    match Text.cutFirst? '/' target.toList with
    | none => (model.container? own).map fun container => (container, target)
    | some (front, back) =>
      (model.bindingContainer? (String.ofList front)).map fun container =>
        (container, String.ofList back)
  found.bind fun (container, name) =>
    (container.findSource? name).map fun _ => (container.id, name)

end Model

namespace DeclaredSource

/-- The entity type of a source. -/
def referenceIn (context : Option Model) (source : DeclaredSource) : Resolved TypeReference :=
  TypeReference.resolveIn context source.typeName source.location fun model =>
    model.resolveStructured source.typeName .entity source.location .plain

/-- The bindings whose targets exist, and the problems of the others. -/
def resolveBindings (model : Model) (source : DeclaredSource) : Resolved (List ResolvedBinding) :=
  let found (binding : Declared.Binding) := model.bindingTarget? source.container binding.target
  { value := source.bindings.filterMap fun binding =>
      (found binding).map fun (container, target) => ⟨binding.path, container, target⟩
    errors := (source.bindings.filter fun binding => (found binding).isNone).map fun binding =>
      ⟨source.location, .unknownTarget binding.path source.name binding.target⟩ }

/-- The bindings whose targets exist, in a context. -/
def bindingsIn (context : Option Model) (source : DeclaredSource) :
    Resolved (List ResolvedBinding) :=
  match context with
  | some model => source.resolveBindings model
  | none => ⟨[], [⟨source.location, .modelUnavailable⟩]⟩

/-- The type of a source whose entity type is known. -/
def typeWith (source : DeclaredSource) (entity : ModelType) : ModelType :=
  match source.kind with
  | .entitySet => .collection entity
  | .singleton => entity

end DeclaredSource

/-- Whether the path of a binding fits a navigation property: its last part is the name, and
the part in front, when it is a qualified name, is that of the declaring type. -/
def bindingFits (context : Option Model) (path : String) (property : NavigationProperty) : Bool :=
  match Text.cutLast? '/' path.toList with
  | none => path = property.decl.name
  | some (front, back) =>
    String.ofList back = property.decl.name &&
      match context.bind fun model => model.structured? property.declaring with
      | some type => !front.contains '.' || type.fullName = String.ofList front
      | none => false

/-- The source that one of the bindings leads to from a navigation property. -/
def bindingSource? (context : Option Model) (bindings : List ResolvedBinding)
    (property : NavigationProperty) : Option DeclaredSource := do
  let binding ← bindings.find? fun binding => bindingFits context binding.path property
  let model ← context
  let container ← model.container? binding.container
  container.findSource? binding.target

namespace Model

def sourceEntity? (model : Model) : NavigationSource → Option StructuredType
  | .declared source => ((source.referenceIn (some model)).value.follow (some model)).entity?
  | .unknown _ property => model.targetEntity? property

/-- The type of the entities of a source, as a collection for an entity set. -/
def sourceType (model : Model) : NavigationSource → ModelType
  | .declared source =>
    source.typeWith ((source.referenceIn (some model)).value.follow (some model))
  | .unknown _ property => model.typeOf (.navigation property)

/-- The source that a navigation property leads to from a source, when a binding tells. -/
def navigationTarget? (model : Model) (source : NavigationSource)
    (property : NavigationProperty) : Option NavigationSource :=
  match source with
  | .declared source =>
    (bindingSource? (some model) (source.bindingsIn (some model)).value property).map .declared
  | .unknown _ _ => none

/-- The source that a navigation property leads to from a source. -/
def navigate (model : Model) (source : NavigationSource) (property : NavigationProperty) :
    NavigationSource :=
  (model.navigationTarget? source property).getD (.unknown source property)

def sourceErrors (model : Model) (source : DeclaredSource) : List ModelError :=
  (source.referenceIn (some model)).errors ++ (source.bindingsIn (some model)).errors

end Model
end ResourcePaths
