import ResourcePaths.Model.Annotation

/-!
# Reading sessions

A session reads one model.  What it derives it remembers, so that no derivation is made twice,
and it may drop the model: from then on a remembered answer stays, an answer first asked for
fails, and a remembered number of an element leads nowhere.

Each derivation has its own memory cell.  `Session.remember` is the only way to read or to fill
one.
-/

namespace ResourcePaths

/-- What a session remembers, each derivation under its own name. -/
inductive Cell where
  | base (type : StructuredType)
  | properties (type : StructuredType)
  | propertyType (property : Property)
  | parameterType (parameter : Parameter)
  | resultType (operation : Operation)
  /-- The entity type of a source. -/
  | sourceEntity (source : DeclaredSource)
  | bindings (source : DeclaredSource)
  | sourceErrors (source : DeclaredSource)
  | imported (imp : OperationImport)
  | importErrors (imp : OperationImport)
  | termType (term : Term)
  /-- The default value of a term. -/
  | termDefault (term : Term)
  | elementErrors (element : Element)
  /-- The term that an annotation applies. -/
  | appliedTerm (note : Annotation)
  /-- The operation that a reference names; the reference stands in the value of an annotation,
  at the end of a way through its collections. -/
  | referencedOperation (note : Annotation) (way : List Nat) (name : String)
      (location : Declared.Location)
  | annotationErrors (note : Annotation)
  deriving DecidableEq, Repr

/-- What a cell holds once it is filled. -/
@[reducible] def Cell.Value : Cell → Type
  | base _ => Resolved (Option TypeReference)
  | properties _ => List Property
  | propertyType _ => Resolved TypeReference
  | parameterType _ => Resolved TypeReference
  | resultType _ => Resolved (Option TypeReference)
  | sourceEntity _ => Resolved TypeReference
  | bindings _ => Resolved (List ResolvedBinding)
  | sourceErrors _ => List ModelError
  | imported _ => Resolved (List ElementId)
  | importErrors _ => List ModelError
  | termType _ => Resolved TypeReference
  | termDefault _ => Option Declared.Constant
  | elementErrors _ => List ModelError
  | appliedTerm _ => Resolved ElementReference
  | referencedOperation _ _ _ _ => Resolved ElementReference
  | annotationErrors _ => List ModelError

/-- The filled cells. -/
abbrev Memory := List ((cell : Cell) × cell.Value)

namespace Memory

/-- The value of a cell, when it is filled. -/
def find? (cell : Cell) : Memory → Option cell.Value
  | [] => none
  | ⟨filled, value⟩ :: rest => if h : filled = cell then some (h ▸ value) else find? cell rest

/-- A cell that has just been filled is found with its value. -/
theorem find?_cons_self (cell : Cell) (value : cell.Value) (memory : Memory) :
    find? cell (⟨cell, value⟩ :: memory) = some value := by
  simp [find?]

/-- Filling a cell leaves every other cell as it is. -/
theorem find?_cons_of_ne {cell filled : Cell} (value : filled.Value) (memory : Memory)
    (h : filled ≠ cell) : find? cell (⟨filled, value⟩ :: memory) = find? cell memory := by
  simp [find?, h]

end Memory

/-- A session: the model, until it is dropped, and what has been derived from it. -/
structure Session where
  /-- The model, as long as there is one. -/
  model : Option Model
  /-- The filled cells. -/
  memory : Memory := []

/-- A step of a session that gives an answer. -/
abbrev Reading := StateM Session

namespace Session

/-- The session that begins with a model. -/
def start (model : Model) : Session :=
  { model := some model }

/-- The session after its model has been dropped. -/
def drop (session : Session) : Session :=
  { session with model := none }

/-- The model, when there still is one. -/
def context : Reading (Option Model) :=
  return (← get).model

/-- The value of a cell; a cell that is not filled is filled first. -/
def remember (cell : Cell) (derive : Reading cell.Value) : Reading cell.Value := do
  match (← get).memory.find? cell with
  | some value => return value
  | none =>
    let value ← derive
    modify fun session => { session with memory := ⟨cell, value⟩ :: session.memory }
    return value

/-- The value of a cell that is derived from the model alone. -/
def rememberIn (cell : Cell) (derive : Option Model → cell.Value) : Reading cell.Value :=
  remember cell do return derive (← context)

/-- The type that a reference leads to. -/
def follow (reference : TypeReference) : Reading ModelType :=
  return reference.follow (← context)

end Session
end ResourcePaths
