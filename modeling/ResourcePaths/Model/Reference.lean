import ResourcePaths.Model.Basic

/-!
# References to types

From the name of a type to a stored reference, and from there to the type itself.  A name that
leads nowhere leads to a placeholder, so that every reference can be followed.

A reference is resolved in a context, which is the model or, once the model is gone, nothing.
-/

namespace ResourcePaths

namespace TypeReference

/-- The placeholder that a name leads to, and its only problem. -/
def failed (name : String) (kind : ElementKind) (location : Declared.Location)
    (problem : Problem) : Resolved TypeReference :=
  let error : ModelError := ⟨location, problem⟩
  ⟨.bad (.ofName name kind [error]), [error]⟩

/-- The type that a number refers to, once its element has been looked up. -/
def ofElement : Option Element → ModelType
  | some (.structured type) => .structured type
  | some (.enum type) => .enum type
  | some (.definition type) => .definition type
  | some other =>
    .bad (.ofName other.fullName other.kind [⟨{}, .notType other.fullName⟩])
  | none => .bad (.ofName "" .typeDefinition [⟨{}, .modelUnavailable⟩])

/-- The type that a reference leads to. -/
def follow (context : Option Model) : TypeReference → ModelType
  | primitive type => .primitive type
  | element id => ofElement (context.bind fun model => model.element? id)
  | collection item => .collection (item.follow context)
  | untyped => .untyped
  | bad placeholder => .bad placeholder

/-- A reference to collections of collections, so many layers deep. -/
def wrap : Nat → TypeReference → TypeReference
  | 0, reference => reference
  | layers + 1, reference => collection (wrap layers reference)

end TypeReference

namespace Model

/-- The numbers of the types of a qualified name. -/
def typeIdsOf (model : Model) (name : String) : List ElementId :=
  (model.idsOf name false).filter fun id =>
    (model.element? id).any fun element => element.kind.isType

/-- The type that a name without layers refers to. -/
def resolveNamed (model : Model) (name : String) (location : Declared.Location) :
    Resolved TypeReference :=
  if name = "Edm.Untyped" then .clean .untyped
  else
    match Primitive.ofName? name with
    | some primitive => .clean (.primitive primitive)
    | none =>
      match model.typeIdsOf name with
      | [id] => .clean (.element id)
      | [] => TypeReference.failed name .typeDefinition location (.unresolvedType name)
      | many => TypeReference.failed name .typeDefinition location (.ambiguousType name many.length)

/-- The type that a name refers to. -/
def resolve (model : Model) (name : String) (location : Declared.Location) :
    Resolved TypeReference :=
  let (layers, inner) := Name.peel name.toList
  (model.resolveNamed (String.ofList (Text.trim inner)) location).map (.wrap layers)

/-- The structured type of a kind that a name refers to. -/
def resolveStructured (model : Model) (name : String) (kind : StructuredKind)
    (location : Declared.Location) (use : StructuredUse) : Resolved TypeReference :=
  let resolved := model.resolve name location
  match resolved.value with
  | .element id =>
    match model.structured? id with
    | some type =>
      if type.kind = kind then resolved
      else TypeReference.failed name kind.elementKind location (.wrongKind name kind use)
    | none => TypeReference.failed name kind.elementKind location (.wrongKind name kind use)
  | .bad placeholder =>
    ⟨.bad (.ofName name kind.elementKind placeholder.errors), placeholder.errors⟩
  | _ => TypeReference.failed name kind.elementKind location (.notStructured name use)

/-- The type that a name refers to. -/
def resolveType (model : Model) (name : String) : ModelType :=
  (model.resolve name {}).value.follow (some model)

/-- The type that a name refers to, when there is one. -/
def findType? (model : Model) (name : String) : Option ModelType :=
  let type := model.resolveType name
  if type.isBad then none else some type

/-- The structured type that a name refers to, when there is one. -/
def findStructured? (model : Model) (name : String) : Option StructuredType :=
  (model.findType? name).bind ModelType.structured?

end Model

/-- Resolves a name in a context; without a model it leads to a placeholder. -/
def TypeReference.resolveIn (context : Option Model) (name : String)
    (location : Declared.Location) (resolve : Model → Resolved TypeReference) :
    Resolved TypeReference :=
  match context with
  | some model => resolve model
  | none => TypeReference.failed name .typeDefinition location .modelUnavailable

end ResourcePaths
