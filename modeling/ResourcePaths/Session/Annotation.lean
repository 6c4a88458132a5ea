import ResourcePaths.Session.Operation

/-!
# Terms, annotations and validation in a session

`Session.validate` fills the cells of all problems, so that they can still be read after the
model has been dropped.
-/

namespace ResourcePaths
namespace Session

open Declared (Expression)

/-- The type of a term with the problems of it. -/
def termReference (term : Term) : Reading (Resolved TypeReference) :=
  rememberIn (.termType term) fun context => term.referenceIn context

def termType (term : Term) : Reading ModelType := do
  follow (← termReference term).value

/-- The default value of a term.  The type is read only where there is a default value. -/
def termDefault? (term : Term) : Reading (Option Declared.Constant) :=
  remember (.termDefault term) do
    match term.decl.defaultValue with
    | some _ => return term.defaultWith (← termType term)
    | none => return none

def termErrors (term : Term) : Reading (List ModelError) :=
  remember (.elementErrors (.term term)) do
    let duplicate := Model.duplicateErrorsIn (← context) (.term term) term.decl.location
    let type := (← termReference term).errors
    return Term.gatherErrors duplicate type (← termDefault? term)

/-- The term that an annotation applies with the problems of it. -/
def termOf (note : Annotation) : Reading (Resolved ElementReference) :=
  rememberIn (.appliedTerm note) fun context => note.termIn context

/-- The term that an annotation applies, or a placeholder. -/
def appliedTerm (note : Annotation) : Reading (Except Placeholder Element) := do
  let reference := (← termOf note).value
  return note.followTerm (← context) reference

/-- The operation that a reference in an annotation names, with the problems of it. -/
def operationOf (note : Annotation) (way : List Nat) (name : String)
    (location : Declared.Location) : Reading (Resolved ElementReference) :=
  rememberIn (.referencedOperation note way name location) fun context =>
    Expression.operationIn context name location

/-- The operation that a reference in an annotation names, or a placeholder. -/
def referencedOperation (note : Annotation) (way : List Nat) (name : String)
    (location : Declared.Location) : Reading (Except Placeholder Element) := do
  let reference := (← operationOf note way name location).value
  return Expression.followOperation (← context) name location reference

mutual

/-- The problems of an expression in an annotation and of all expressions inside it. -/
def expressionErrors (note : Annotation) (way : List Nat) :
    Expression → Reading (List ModelError)
  | .constant value => return value.errors
  | .path _ _ => return []
  | .operationReference name location =>
    return (← operationOf note way name location).errors
  | .collection items _ => itemErrors note way 0 items
  | .null _ => return []

/-- The problems of expressions in an annotation, the first of them at a position. -/
def itemErrors (note : Annotation) (way : List Nat) (position : Nat) :
    List Expression → Reading (List ModelError)
  | [] => return []
  | item :: rest => do
    let errors ← expressionErrors note (way ++ [position]) item
    return errors ++ (← itemErrors note way (position + 1) rest)

end

def annotationErrors (note : Annotation) : Reading (List ModelError) :=
  remember (.annotationErrors note) do
    let term := (← termOf note).errors
    return term ++ (← expressionErrors note [] note.decl.expression)

def elementErrors : Element → Reading (List ModelError)
  | .structured type => structuredErrors type
  | .enum type => rememberIn (.elementErrors (.enum type)) fun context => type.errorsIn context
  | .definition type =>
    rememberIn (.elementErrors (.definition type)) fun context => type.errorsIn context
  | .operation operation => operationErrors operation
  | .term term => termErrors term
  | .container container => containerErrors container

/-- The problems of all elements, then those of all annotations. -/
def validate : Reading (List ModelError) := do
  match ← context with
  | some model =>
    let elements ← model.elements.flatMapM elementErrors
    return elements ++ (← model.annotations.flatMapM annotationErrors)
  | none => return []

end Session
end ResourcePaths
