import ResourcePaths.Proofs.Session.Transparency

/-!
# Queries

What can be asked of a session: look-ups in its model, the types, members and problems of the nodes
that look-ups lead to, and what follows from them.  What a node says by itself, such as its name,
its parameters or the value of a constant, is no query: it does not go through the session.

A session is asked any queries in any order.  While the model lives, each of them is answered with
what the model derives for it when nothing is remembered.  The main theorem says that asking never
changes an answer: each query is answered as the first one would have been, and a filled cell holds
what the model derives for it.
-/

namespace ResourcePaths

/-! ### Look-ups -/

/-- What is looked up in a model alone. -/
inductive LookUp where
  /-- All elements. -/
  | elements
  /-- The elements of a qualified name. -/
  | named (name : String) (ignoreCase : Bool)
  /-- The first element of a simple name in a namespace. -/
  | element (namespaceName name : String)
  /-- The type of a name, or a placeholder. -/
  | type (name : String)
  | findType (name : String)
  | structured (name : String)
  | operations (name : String)
  | term (name : String)
  | container (name : String)
  | firstContainer
  | annotations (target : String)

namespace LookUp

@[reducible] def Answer : LookUp → Type
  | elements => List Element
  | named _ _ => List Element
  | element _ _ => Option Element
  | type _ => ModelType
  | findType _ => Option ModelType
  | structured _ => Option StructuredType
  | operations _ => List Operation
  | term _ => Option Term
  | container _ => Option Container
  | firstContainer => Option Container
  | annotations _ => List Annotation

def answer (model : Model) : (lookUp : LookUp) → lookUp.Answer
  | elements => model.elements
  | named name ignoreCase => model.find name ignoreCase
  | element namespaceName name => model.findElement? namespaceName name
  | type name => model.resolveType name
  | findType name => model.findType? name
  | structured name => model.findStructured? name
  | operations name => model.findOperations name
  | term name => model.findTerm? name
  | container name => model.findContainer? name
  | firstContainer => model.firstContainer?
  | annotations target => model.annotationsOf target

end LookUp

/-! ### Nodes with a type, nodes with problems -/

/-- What has a type. -/
inductive TypeHolder where
  | property (property : Property)
  /-- A structured type, for its base type. -/
  | base (type : StructuredType)
  | parameter (parameter : Parameter)
  /-- An operation, for the type of its result. -/
  | result (operation : Operation)
  | source (source : NavigationSource)
  | term (term : Term)

/-- Reads the type, where one is declared. -/
def TypeHolder.read : TypeHolder → Reading (Option ModelType)
  | property node => do return some (← Session.typeOf node)
  | base type => Session.baseType? type
  | parameter node => do return some (← Session.parameterType node)
  | result operation => Session.resultType? operation
  | source node => do return some (← Session.sourceType node)
  | term node => do return some (← Session.termType node)

/-- What keeps a list of its problems. -/
inductive ErrorHolder where
  | element (element : Element)
  | property (property : Property)
  | parameter (parameter : Parameter)
  | source (source : DeclaredSource)
  | imp (imp : OperationImport)
  | annotation (note : Annotation)
  /-- An expression in an annotation, at the end of a way through its collections. -/
  | expression (note : Annotation) (way : List Nat) (expression : Declared.Expression)

/-- Reads the problems. -/
def ErrorHolder.read : ErrorHolder → Reading (List ModelError)
  | element node => Session.elementErrors node
  | property node => Session.propertyErrors node
  | parameter node => do return (← Session.parameterReference node).errors
  | source node => Session.sourceErrors node
  | imp node => Session.importErrors node
  | annotation note => Session.annotationErrors note
  | expression note way node => Session.expressionErrors note way node

/-! ### Queries -/

/-- What can be asked of a session. -/
inductive Query where
  | lookUp (lookUp : LookUp)
  /-- The problems of the whole model. -/
  | validation
  | boundOperations (type : ModelType)
  | typeOf (holder : TypeHolder)
  | errorsOf (holder : ErrorHolder)
  | isOpen (type : ModelType)
  /-- Whether a value of the second type can stand where the first one is asked for. -/
  | isAssignable (target source : ModelType)
  | baseStructured (type : StructuredType)
  | ancestors (type : StructuredType)
  | inherits (type other : StructuredType)
  | properties (type : StructuredType)
  | property (type : StructuredType) (name : String) (ignoreCase : Bool)
  | key (type : StructuredType)
  | declaringType (property : Property)
  | targetEntity (property : NavigationProperty)
  | partner (property : NavigationProperty)
  | sourceEntity (source : NavigationSource)
  /-- The unknown source behind a source and the navigation properties of these names. -/
  | sourceBehind (source : NavigationSource) (names : List String)
  | navigationTarget (source : NavigationSource) (property : NavigationProperty)
  | importedOperations (imp : OperationImport)
  | importedSet (imp : OperationImport)
  | termDefault (term : Term)
  | appliedTerm (note : Annotation)
  /-- The operation that a reference in an annotation names. -/
  | referencedOperation (note : Annotation) (way : List Nat) (name : String)
      (location : Declared.Location)

namespace Query

@[reducible] def Answer : Query → Type
  | lookUp found => Option found.Answer
  | validation => List ModelError
  | boundOperations _ => List Operation
  | typeOf _ => Option ModelType
  | errorsOf _ => List ModelError
  | isOpen _ => Bool
  | isAssignable _ _ => Bool
  | baseStructured _ => Option StructuredType
  | ancestors _ => List StructuredType
  | inherits _ _ => Bool
  | properties _ => List Property
  | property _ _ _ => Option Property
  | key _ => List StructuralProperty
  | declaringType _ => Option StructuredType
  | targetEntity _ => Option StructuredType
  | partner _ => Option NavigationProperty
  | sourceEntity _ => Option StructuredType
  | sourceBehind _ _ => Option NavigationSource
  | navigationTarget _ _ => Option NavigationSource
  | importedOperations _ => List Operation
  | importedSet _ => Option DeclaredSource
  | termDefault _ => Option Declared.Constant
  | appliedTerm _ => Except Placeholder Element
  | referencedOperation _ _ _ _ => Except Placeholder Element

/-- Asks a session.  A look-up has no answer once the model is gone. -/
def ask : (query : Query) → Reading query.Answer
  | lookUp found => do return (← Session.context).map fun model => found.answer model
  | validation => Session.validate
  | boundOperations type => Session.findBoundOperations type
  | typeOf holder => holder.read
  | errorsOf holder => holder.read
  | isOpen type => Session.isOpen type
  | isAssignable target source => Session.isAssignable target source
  | baseStructured type => Session.baseStructured? type
  | ancestors type => Session.ancestors type
  | inherits type other => Session.inherits type other
  | properties type => Session.properties type
  | property type name ignoreCase => Session.findProperty? type name ignoreCase
  | key type => Session.key type
  | declaringType node => Session.declaringType? node
  | targetEntity node => Session.targetEntity? node
  | partner node => Session.partner? node
  | sourceEntity source => Session.sourceEntity? source
  | sourceBehind source names => Session.unknownSource? source names
  | navigationTarget source node => Session.navigationTarget? source node
  | importedOperations imp => Session.importedOperations imp
  | importedSet imp => Session.importedSet? imp
  | termDefault term => Session.termDefault? term
  | appliedTerm note => Session.appliedTerm note
  | referencedOperation note way name location =>
    Session.referencedOperation note way name location

end Query

namespace Session

/-- The answer of a session to a query. -/
def answer (session : Session) (query : Query) : query.Answer :=
  (query.ask.run session).1

/-- The session after it has been asked some queries in their order. -/
def after (session : Session) : List Query → Session
  | [] => session
  | query :: rest => after (query.ask.run session).2 rest

end Session

/-! ### What a model answers -/

/-- The type that a model derives, where one is declared. -/
def TypeHolder.derive (model : Model) : TypeHolder → Option ModelType
  | property node => some (model.typeOf node)
  | base type => model.baseType? type
  | parameter node => some (model.parameterType node)
  | result operation => model.resultType? operation
  | source node => some (model.sourceType node)
  | term node => some (model.termType node)

/-- The problems that a model derives for a node. -/
def ErrorHolder.derive (model : Model) : ErrorHolder → List ModelError
  | element node => model.elementErrors node
  | property node => model.propertyErrors node
  | parameter node => (node.referenceIn (some model)).errors
  | source node => model.sourceErrors node
  | imp node => model.importErrors node
  | annotation note => model.annotationErrors note
  | expression _ _ node => node.errorsIn (some model)

/-- The unknown source behind a source and navigation properties of the entity types on the way,
given by their names. -/
def Model.sourceBehind? (model : Model) (source : NavigationSource) :
    List String → Option NavigationSource
  | [] => some source
  | name :: rest =>
    match model.sourceEntity? source with
    | none => none
    | some entity =>
      match (model.findProperty? entity name).bind Property.navigation? with
      | none => none
      | some property => model.sourceBehind? (.unknown source property) rest

/-- The answer that a model derives, with nothing remembered. -/
def Query.derive (model : Model) : (query : Query) → query.Answer
  | lookUp found => some (found.answer model)
  | validation => model.validate
  | boundOperations type => model.findBoundOperations type
  | typeOf holder => holder.derive model
  | errorsOf holder => holder.derive model
  | isOpen type => model.isOpen type
  | isAssignable target source => model.isAssignable target source
  | baseStructured type => model.baseStructured? type
  | ancestors type => model.ancestors type
  | inherits type other => model.inherits type other
  | properties type => model.properties type
  | property type name ignoreCase => model.findProperty? type name ignoreCase
  | key type => model.key type
  | declaringType node => model.structured? node.declaring
  | targetEntity node => model.targetEntity? node
  | partner node => model.partner? node
  | sourceEntity source => model.sourceEntity? source
  | sourceBehind source names => model.sourceBehind? source names
  | navigationTarget source node => model.navigationTarget? source node
  | importedOperations imp => model.importedOperations imp
  | importedSet imp => model.importedSet? imp
  | termDefault term => model.termDefault? term
  | appliedTerm note => model.appliedTerm note
  | referencedOperation _ _ name location => model.referencedOperation name location

/-! ### Asking is steady -/

namespace TypeHolder

theorem steady_read (holder : TypeHolder) : Session.Steady holder.read := by
  cases holder with
  | property node => exact (Session.steady_typeOf node).map _
  | base type => exact Session.steady_baseType? type
  | parameter node => exact (Session.steady_parameterType node).map _
  | result operation => exact Session.steady_resultType? operation
  | source node => exact (Session.steady_sourceType node).map _
  | term node => exact (Session.steady_termType node).map _

end TypeHolder

namespace ErrorHolder

theorem steady_read (holder : ErrorHolder) : Session.Steady holder.read := by
  cases holder with
  | element node => exact Session.steady_elementErrors node
  | property node => exact Session.steady_propertyErrors node
  | parameter node => exact (Session.steady_parameterReference node).map _
  | source node => exact Session.steady_sourceErrors node
  | imp node => exact Session.steady_importErrors node
  | annotation note => exact Session.steady_annotationErrors note
  | expression note way node => exact Session.steady_expressionErrors note way node

end ErrorHolder

namespace Session

theorem steady_ask (query : Query) : Steady query.ask := by
  cases query with
  | lookUp found => exact steady_context.map _
  | validation => exact steady_validate
  | boundOperations type => exact steady_findBoundOperations type
  | typeOf holder => exact holder.steady_read
  | errorsOf holder => exact holder.steady_read
  | isOpen type => exact steady_isOpen type
  | isAssignable target source => exact steady_isAssignable target source
  | baseStructured type => exact steady_baseStructured? type
  | ancestors type => exact steady_ancestors type
  | inherits type other => exact steady_inherits type other
  | properties type => exact steady_properties type
  | property type name ignoreCase => exact steady_findProperty? type name ignoreCase
  | key type => exact steady_key type
  | declaringType node => exact steady_declaringType? node
  | targetEntity node => exact steady_targetEntity? node
  | partner node => exact steady_partner? node
  | sourceEntity source => exact steady_sourceEntity? source
  | sourceBehind source names => exact steady_unknownSource? source names
  | navigationTarget source node => exact steady_navigationTarget? source node
  | importedOperations imp => exact steady_importedOperations imp
  | importedSet imp => exact steady_importedSet? imp
  | termDefault term => exact steady_termDefault? term
  | appliedTerm note => exact steady_appliedTerm note
  | referencedOperation note way name location =>
      exact steady_referencedOperation note way name location

theorem Grown.after {base session : Session} (h : Grown base session) (asked : List Query) :
    Grown base (session.after asked) := by
  induction asked generalizing session with
  | nil => exact h
  | cons query rest ih => exact ih (steady_ask query base session h).2

theorem grown_after (session : Session) (asked : List Query) :
    Grown session (session.after asked) :=
  (Grown.refl session).after asked

/-- What has been asked before does not show. -/
theorem answer_after (session : Session) (asked : List Query) (query : Query) :
    (session.after asked).answer query = session.answer query :=
  (steady_ask query session _ (grown_after session asked)).1

/-! ### Living models -/

variable {model : Model}

/-- Filling a cell gives what the model derives for it. -/
theorem gives_read (cell : Cell) : Gives model cell.read (cell.derive model) := by
  cases cell with
  | base type => exact gives_baseReference type
  | properties type => exact gives_properties type
  | propertyType node => exact gives_propertyReference node
  | parameterType node => exact gives_parameterReference node
  | resultType operation => exact gives_resultReference operation
  | sourceEntity source => exact gives_sourceReference source
  | bindings source => exact gives_bindings source
  | sourceErrors source => exact gives_sourceErrors source
  | imported imp => exact gives_importedReferences imp
  | importErrors imp => exact gives_importErrors imp
  | termType term => exact gives_termReference term
  | termDefault term => exact gives_termDefault? term
  | elementErrors element => exact gives_elementErrors element
  | appliedTerm note => exact gives_termOf note
  | referencedOperation note way name location => exact gives_operationOf note way name location
  | annotationErrors note => exact gives_annotationErrors note

theorem gives_types (holder : TypeHolder) : Gives model holder.read (holder.derive model) := by
  cases holder with
  | property node => exact (gives_typeOf node).map _
  | base type => exact gives_baseType? type
  | parameter node => exact (gives_parameterType node).map _
  | result operation => exact gives_resultType? operation
  | source node => exact (gives_sourceType node).map _
  | term node => exact (gives_termType node).map _

theorem gives_errors (holder : ErrorHolder) : Gives model holder.read (holder.derive model) := by
  cases holder with
  | element node => exact gives_elementErrors node
  | property node => exact gives_propertyErrors node
  | parameter node => exact (gives_parameterReference node).map _
  | source node => exact gives_sourceErrors node
  | imp node => exact gives_importErrors node
  | annotation note => exact gives_annotationErrors note
  | expression note way node => exact gives_expressionErrors note way node

theorem gives_unknownSource? (source : NavigationSource) (names : List String) :
    Gives model (unknownSource? source names) (model.sourceBehind? source names) := by
  induction names generalizing source with
  | nil => exact gives_pure _
  | cons name rest ih =>
      rw [Model.sourceBehind?]
      refine (gives_sourceEntity? source).bind ?_
      cases model.sourceEntity? source with
      | none => exact gives_pure none
      | some entity =>
          dsimp only
          refine (gives_findProperty? entity name false).bind ?_
          cases (model.findProperty? entity name).bind Property.navigation? with
          | none => exact gives_pure none
          | some property => exact ih _

/-- A live session answers what its model derives. -/
theorem gives_ask (query : Query) : Gives model query.ask (query.derive model) := by
  cases query with
  | lookUp found => exact gives_context.map _
  | validation => exact gives_validate
  | boundOperations type => exact gives_findBoundOperations type
  | typeOf holder => exact gives_types holder
  | errorsOf holder => exact gives_errors holder
  | isOpen type => exact gives_isOpen type
  | isAssignable target source => exact gives_isAssignable target source
  | baseStructured type => exact gives_baseStructured? type
  | ancestors type => exact gives_ancestors type
  | inherits type other => exact gives_inherits type other
  | properties type => exact gives_properties type
  | property type name ignoreCase => exact gives_findProperty? type name ignoreCase
  | key type => exact gives_key type
  | declaringType node => exact gives_context.map _
  | targetEntity node => exact gives_targetEntity? node
  | partner node => exact gives_partner? node
  | sourceEntity source => exact gives_sourceEntity? source
  | sourceBehind source names => exact gives_unknownSource? source names
  | navigationTarget source node => exact gives_navigationTarget? source node
  | importedOperations imp => exact gives_importedOperations imp
  | importedSet imp => exact gives_importedSet? imp
  | termDefault term => exact gives_termDefault? term
  | appliedTerm note => exact gives_appliedTerm note
  | referencedOperation note way name location =>
      exact gives_referencedOperation note way name location

/-- Asking keeps a session live. -/
theorem live_after (model : Model) (asked : List Query) :
    Live model ((start model).after asked) := by
  have hgrown := grown_after (start model) asked
  refine ⟨hgrown.model_eq, fun cell value hfound => ?_⟩
  rw [← hgrown.filled cell value hfound]
  exact (gives_read cell _ (live_start model)).1

/-- While the model lives, a session gives the answer that the model derives with nothing remembered,
whatever has been asked before. -/
theorem answer_eq_derive (model : Model) (asked : List Query) (query : Query) :
    ((start model).after asked).answer query = query.derive model :=
  (gives_ask query _ (live_after model asked)).1

/-- While the model lives, it does not matter what has been asked: after any queries each query is
answered as after any others and as the first one of all, and every cell is empty or holds what the
model derives for it. -/
theorem answers_of_live_model (model : Model) (first second : List Query) :
    (∀ query, ((start model).after first).answer query = ((start model).after second).answer query ∧
      ((start model).after first).answer query = (start model).answer query) ∧
    ∀ cell, ((start model).after first).memory.find? cell = none ∨
      ((start model).after first).memory.find? cell = some (cell.derive model) := by
  refine ⟨fun query => ⟨?_, answer_after _ first query⟩, fun cell => ?_⟩
  · calc ((start model).after first).answer query
        = (start model).answer query := answer_after _ first query
      _ = ((start model).after second).answer query := (answer_after _ second query).symm
  · cases hfound : ((start model).after first).memory.find? cell with
    | none => exact .inl rfl
    | some value =>
        rw [(live_after model first).derived cell value hfound]
        exact .inr rfl

end Session
end ResourcePaths
