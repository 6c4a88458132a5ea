import ResourcePaths.Declared.Json
import ResourcePaths.Model.Index

/-!
# The model

A model is built once from a description and never changes.  Building it numbers the elements
and indexes their names; everything else is derived from it on demand: what a name refers to,
and what is wrong.  `Model.find` is the look-up that all references go through.
-/

namespace ResourcePaths

/-- An annotation and the number under which the model keeps it. -/
structure Annotation where
  id : Nat
  /-- The target, as it is written. -/
  target : String
  decl : Declared.Annotation
  deriving DecidableEq, Repr

/-- A model. -/
structure Model where
  /-- The elements, each at the place of its number. -/
  elements : List Element
  /-- The numbers of the elements of each name. -/
  index : NameIndex
  /-- The namespaces that short names stand for; of two entries the later one counts. -/
  aliases : List (String × String)
  /-- The annotations in their order. -/
  annotations : List Annotation
  deriving Repr

/-- The elements of a schema in their order, each to be given its number. -/
def Declared.Schema.elements (schema : Declared.Schema) : List (ElementId → Element) :=
  let ns := schema.namespaceName
  schema.entityTypes.map (fun decl id => .structured ⟨id, ns, .entity, decl⟩) ++
  schema.complexTypes.map (fun decl id => .structured ⟨id, ns, .complex, decl⟩) ++
  schema.enumTypes.map (fun decl id => .enum ⟨id, ns, decl⟩) ++
  schema.typeDefinitions.map (fun decl id => .definition ⟨id, ns, decl⟩) ++
  schema.actions.map (fun decl id => .operation ⟨id, ns, .action, decl⟩) ++
  schema.functions.map (fun decl id => .operation ⟨id, ns, .function, decl⟩) ++
  schema.terms.map (fun decl id => .term ⟨id, ns, decl⟩) ++
  schema.containers.map (fun decl id => .container ⟨id, ns, decl⟩)

/-- The annotations of a schema in their order, each with its target. -/
def Declared.Schema.targetedAnnotations (schema : Declared.Schema) :
    List (String × Declared.Annotation) :=
  schema.annotations.flatMap fun group => group.annotations.map fun decl => (group.target, decl)

namespace Model

def ofDescription (description : Declared.Description) : Model :=
  let elements := (description.schemas.flatMap Declared.Schema.elements).zipIdx.map
    fun (element, id) => element id
  { elements := elements
    index := .ofElements elements
    aliases := description.schemas.filterMap fun schema =>
      schema.shortName.map fun short => (short, schema.namespaceName)
    annotations := (description.schemas.flatMap Declared.Schema.targetedAnnotations).zipIdx.map
      fun ((target, decl), id) => ⟨id, target, decl⟩ }

/-- The model that a text describes. -/
def ofText (text : String) : Except Json.Fault Model :=
  (Declared.Description.ofText text).map ofDescription

def element? (model : Model) (id : ElementId) : Option Element :=
  model.elements[id]?

def structured? (model : Model) (id : ElementId) : Option StructuredType :=
  (model.element? id).bind Element.structured?

def container? (model : Model) (id : ElementId) : Option Container :=
  (model.element? id).bind Element.container?

/-- The namespace that a short name stands for. -/
def aliased? (model : Model) (short : String) : Option String :=
  model.aliases.reverse.lookup short

/-- The qualified name with the namespace in place of a short name for it. -/
def normalize (model : Model) (name : String) : String :=
  let (front, simple) := Name.split name
  match model.aliased? front with
  | some namespaceName => Name.qualify namespaceName simple
  | none => name

/-- The numbers of the elements of a qualified name.  An exact match hides every match that
differs in case. -/
def idsOf (model : Model) (name : String) (ignoreCase : Bool) : List ElementId :=
  let full := model.normalize (Text.trimmed name)
  match model.index.find? full with
  | some ids => ids
  | none => if ignoreCase then model.index.alike full else []

/-- The elements of a qualified name in the order of their declarations. -/
def find (model : Model) (name : String) (ignoreCase : Bool := false) : List Element :=
  (model.idsOf name ignoreCase).filterMap model.element?

/-- The first element of a simple name in a namespace. -/
def findElement? (model : Model) (namespaceName name : String) : Option Element :=
  (model.find (Name.qualify namespaceName name)).head?

/-- The operations of a qualified name. -/
def findOperations (model : Model) (name : String) : List Operation :=
  (model.find name).filterMap Element.operation?

/-- The first term of a qualified name. -/
def findTerm? (model : Model) (name : String) : Option Term :=
  (model.find name).findSome? Element.term?

/-- The first container of a qualified name. -/
def findContainer? (model : Model) (name : String) : Option Container :=
  (model.find name).findSome? Element.container?

def containers (model : Model) : List Container :=
  model.elements.filterMap Element.container?

def firstContainer? (model : Model) : Option Container :=
  model.elements.findSome? Element.container?

def operations (model : Model) : List Operation :=
  model.elements.filterMap Element.operation?

def annotationsOf (model : Model) (target : String) : List Annotation :=
  let full := model.normalize target
  model.annotations.filter fun note => model.normalize note.target = full

/-- The problem of an element whose name belongs to another element, too, unless both are
overloads of one operation. -/
def duplicateErrors (model : Model) (element : Element) (location : Declared.Location) :
    List ModelError :=
  let clashes (id : ElementId) : Bool :=
    id ≠ element.id && (model.element? id).any fun other => !element.kind.mayShare other.kind
  if ((model.index.find? element.fullName).getD []).any clashes then
    [⟨location, .duplicateElement element.fullName⟩]
  else []

/-- The problem of an element whose name is not its own; none without a model. -/
def duplicateErrorsIn (context : Option Model) (element : Element)
    (location : Declared.Location) : List ModelError :=
  match context with
  | some model => model.duplicateErrors element location
  | none => []

end Model
end ResourcePaths
