import ResourcePaths.Model.Constant
import ResourcePaths.Model.Operation

/-!
# Terms, annotations and the validation of a model
-/

namespace ResourcePaths

/-- A reference to an element that is not a type, as it is stored. -/
abbrev ElementReference := Except Placeholder ElementId

namespace ElementReference

/-- The reference to the first element of a name that `select` accepts.  Where there is none it
leads to a placeholder, with the problem given; without a model, with the problem of that. -/
def resolveIn (context : Option Model) (name : String) (kind : ElementKind)
    (location : Declared.Location) (select : Element → Bool) (problem : Problem) :
    Resolved ElementReference :=
  let failed (problem : Problem) : Resolved ElementReference :=
    let error : ModelError := ⟨location, problem⟩
    ⟨.error (.ofName name kind [error]), [error]⟩
  match context with
  | some model =>
    match (model.find name).find? select with
    | some element => .clean (.ok element.id)
    | none => failed problem
  | none => failed .modelUnavailable

/-- The element that a reference leads to. -/
def follow (context : Option Model) (name : String) (kind : ElementKind)
    (location : Declared.Location) : ElementReference → Except Placeholder Element
  | .ok id =>
    match context.bind fun model => model.element? id with
    | some element => .ok element
    | none => .error (.ofName name kind [⟨location, .modelUnavailable⟩])
  | .error placeholder => .error placeholder

end ElementReference

namespace Term

/-- The type of the values. -/
def referenceIn (context : Option Model) (term : Term) : Resolved TypeReference :=
  TypeReference.resolveIn context term.decl.typeName term.decl.location fun model =>
    model.resolve term.decl.typeName term.decl.location

/-- The kind of constants that write values of a type; texts where the type is not primitive. -/
def constantKind (type : ModelType) : Declared.ConstantKind :=
  let primitive? := match type with
    | .primitive primitive => some primitive
    | .definition definition => definition.underlyingType?
    | _ => none
  (primitive?.bind Primitive.constantKind?).getD .string

/-- The default value, read as a constant of the type. -/
def defaultWith (term : Term) (type : ModelType) : Option Declared.Constant :=
  term.decl.defaultValue.map fun text =>
    { kind := constantKind type, text := text, location := term.decl.location }

/-- The problems of a term, from those of its parts. -/
def gatherErrors (duplicate type : List ModelError) (initial : Option Declared.Constant) :
    List ModelError :=
  duplicate ++ type ++ (initial.map Declared.Constant.errors).getD []

end Term

namespace Annotation

/-- The term that is applied. -/
def termIn (context : Option Model) (note : Annotation) : Resolved ElementReference :=
  ElementReference.resolveIn context note.decl.term .term note.decl.location
    (fun element => element.term?.isSome) (.unresolvedTerm note.decl.term)

/-- The term that a stored reference leads to. -/
def followTerm (context : Option Model) (note : Annotation)
    (reference : ElementReference) : Except Placeholder Element :=
  ElementReference.follow context note.decl.term .term note.decl.location reference

end Annotation

namespace Declared.Expression

/-- The operation that a name in an expression refers to. -/
def operationIn (context : Option Model) (name : String) (location : Location) :
    Resolved ElementReference :=
  ElementReference.resolveIn context name .function location
    (fun element => element.operation?.isSome) (.unresolvedOperation name)

/-- The operation that a stored reference leads to. -/
def followOperation (context : Option Model) (name : String) (location : Location)
    (reference : ElementReference) : Except Placeholder Element :=
  ElementReference.follow context name .function location reference

/-- The parts of a path between slashes, without the empty ones. -/
def pathSegments (path : String) : List String :=
  (Text.pieces '/' path).filter fun piece => !piece.isEmpty

mutual

/-- The problems of an expression and of all expressions inside it. -/
def errorsIn (context : Option Model) : Expression → List ModelError
  | .constant value => value.errors
  | .path _ _ => []
  | .operationReference name location => (operationIn context name location).errors
  | .collection items _ => itemErrorsIn context items
  | .null _ => []

/-- The problems of expressions in their order. -/
def itemErrorsIn (context : Option Model) : List Expression → List ModelError
  | [] => []
  | item :: rest => item.errorsIn context ++ itemErrorsIn context rest

end

end Declared.Expression

namespace Model

def termType (model : Model) (term : Term) : ModelType :=
  (term.referenceIn (some model)).value.follow (some model)

/-- The default value of a term. -/
def termDefault? (model : Model) (term : Term) : Option Declared.Constant :=
  term.defaultWith (model.termType term)

def termErrors (model : Model) (term : Term) : List ModelError :=
  Term.gatherErrors (model.duplicateErrors (.term term) term.decl.location)
    (term.referenceIn (some model)).errors (model.termDefault? term)

/-- The term that an annotation applies, or a placeholder. -/
def appliedTerm (model : Model) (note : Annotation) : Except Placeholder Element :=
  note.followTerm (some model) (note.termIn (some model)).value

/-- The operation that an expression refers to by name, or a placeholder. -/
def referencedOperation (model : Model) (name : String) (location : Declared.Location) :
    Except Placeholder Element :=
  Declared.Expression.followOperation (some model) name location
    (Declared.Expression.operationIn (some model) name location).value

def annotationErrors (model : Model) (note : Annotation) : List ModelError :=
  (note.termIn (some model)).errors ++ note.decl.expression.errorsIn (some model)

def elementErrors (model : Model) : Element → List ModelError
  | .structured type => model.structuredErrors type
  | .enum type => type.errorsIn (some model)
  | .definition type => type.errorsIn (some model)
  | .operation operation => model.operationErrors operation
  | .term term => model.termErrors term
  | .container container => model.containerErrors container

/-- The problems of all elements, then those of all annotations. -/
def validate (model : Model) : List ModelError :=
  model.elements.flatMap model.elementErrors ++ model.annotations.flatMap model.annotationErrors

end Model
end ResourcePaths
