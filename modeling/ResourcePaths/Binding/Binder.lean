import ResourcePaths.Binding.Key
import ResourcePaths.Binding.Overload
import ResourcePaths.Binding.Settings
import ResourcePaths.Path.RawSegment

/-!
# The binder

Binding walks over the tokens of a chain and keeps what they lead to so far.  A first token
names a member of the container.  Any other token is tried as a property, as a type, as an
operation bound to the current type, and at last as a property that is not declared.  No token
is looked at twice, and none before its turn.
-/

namespace ResourcePaths

/-- What a path is bound against. -/
structure Binder where
  model : Model
  /-- The container of the first token. -/
  container : Option Container
  settings : Settings
  deriving Repr

namespace Binder

/-- The binder of a model and its first container. -/
def ofModel (model : Model) (settings : Settings) : Binder :=
  ⟨model, model.firstContainer?, settings⟩

/-- The segment of an identifier whose values have a type. -/
def segmentOf (identifier : String) (kind : SegmentKind) (type : ModelType)
    (source : Option NavigationSource) : Segment :=
  ⟨identifier, kind, some type.split.1, type.split.2, source⟩

def callSegment (binder : Binder) (identifier : String) (kind : SegmentKind)
    (operation : Operation) (source : Option NavigationSource) : Segment :=
  match binder.model.resultType? operation with
  | some type => segmentOf identifier kind type source
  | none => ⟨identifier, kind, none, .single, source⟩

/-- The segment of an entity set or a singleton. -/
def sourceSegment (binder : Binder) (identifier : String) (source : DeclaredSource) : Segment :=
  segmentOf identifier (.source source) (binder.model.sourceType (.declared source))
    (some (.declared source))

/-! ### The first token -/

/-- The operations that imports expose, each with its import. -/
def importedCandidates (binder : Binder) (imports : List OperationImport) :
    List (OperationImport × Operation) :=
  imports.flatMap fun imp =>
    (binder.model.importedOperations imp).map fun operation => (imp, operation)

/-- The operations of a qualified name that are not bound. -/
def unboundNamed (binder : Binder) (identifier : String) : List Operation :=
  ((binder.model.find identifier binder.settings.ignoreCase).filterMap
    Element.operation?).filter fun operation => !operation.decl.isBound

/-- A call by the name of imports. -/
def bindImport (binder : Binder) (identifier : String) (arguments : List Argument)
    (imports : List OperationImport) : Except TokenFault Segment := do
  let (imp, operation) ← binder.model.selectOverload Prod.snd none arguments
    (binder.importedCandidates imports)
  return binder.callSegment identifier (.imported imp operation arguments) operation
    ((binder.model.importedSet? imp).map .declared)

/-- A call by a qualified name, which no value is given to. -/
def bindUnbound (binder : Binder) (identifier : String) (arguments : List Argument)
    (operations : List Operation) : Except TokenFault Segment := do
  let operation ← binder.model.selectOverload id none arguments operations
  return binder.callSegment identifier (.operation operation arguments) operation none

/-- The segment of a first token. -/
def bindRoot (binder : Binder) (container : Container) (token : Token) :
    Except TokenFault Segment :=
  let identifier := token.identifier
  match container.findSource? identifier binder.settings.ignoreCase with
  | some source => .ok (binder.sourceSegment identifier source)
  | none =>
    let arguments := Argument.ofValues token.values
    match container.findImports identifier binder.settings.ignoreCase with
    | imp :: imports => binder.bindImport identifier arguments (imp :: imports)
    | [] =>
      match if Text.mentions identifier '.' then binder.unboundNamed identifier else [] with
      | operation :: others => binder.bindUnbound identifier arguments (operation :: others)
      | [] => .error (.notFound (.container container.fullName))

/-! ### Any other token -/

/-- The segment of a property.  The items of a structural property of many values are as many,
and navigation may go on only through structured values. -/
def propertySegment (binder : Binder) (place : Place) (identifier : String)
    (property : Property) : Segment :=
  let type := binder.model.typeOf property
  match property with
  | .navigation node =>
    segmentOf identifier (.navigation node) type
      (place.source.map fun source => binder.model.navigate source node)
  | .structural node =>
    { identifier := identifier
      kind := .property node
      type := some type.split.1
      cardinality := if type.isCollection then .collection else place.cardinality
      source := if type.split.1.structured?.isSome then place.source else none }

/-- The property that a token names. -/
def propertyNamed? (binder : Binder) (type : ModelType) (identifier : String) :
    Option Property :=
  type.structured?.bind fun structured =>
    binder.model.findProperty? structured identifier binder.settings.ignoreCase

/-- The types that a token may name. -/
def castTargets (binder : Binder) (identifier : String) : List ModelType :=
  if Text.mentions identifier '.' then
    binder.model.typesNamed binder.settings.ignoreCase identifier
  else []

/-- The segment of the values of one type among those of another. -/
def bindCast (binder : Binder) (place : Place) (current : ModelType) (identifier : String)
    (target : ModelType) : Except TokenFault Segment :=
  if binder.model.isAssignable current target then
    .ok ⟨identifier, .cast target, some target, place.cardinality, place.source⟩
  else .error (.notAssignable current.fullName)

/-- The operations that a token may call on a value of a type. -/
def boundCandidates (binder : Binder) (identifier : String) (type : ModelType) :
    List Operation :=
  let ignoreCase := binder.settings.ignoreCase
  if Text.mentions identifier '.' then
    ((binder.model.find identifier ignoreCase).filterMap Element.operation?).filter
      (binder.model.isBoundTo type)
  else if binder.settings.unqualifiedCalls then
    (binder.model.findBoundOperations type).filter fun operation =>
      operation.decl.name = identifier ||
        ignoreCase && Text.alike operation.decl.name identifier
  else []

/-- The source behind navigation properties of the entity types on the way. -/
def followNames (binder : Binder) (source : NavigationSource) :
    List String → Option NavigationSource
  | [] => some source
  | name :: rest => do
    let entity ← binder.model.sourceEntity? source
    let property ← (← binder.model.findProperty? entity name).navigation?
    binder.followNames (binder.model.navigate source property) rest

/-- The source of the entities that an operation gives, along its path behind the binding
parameter. -/
def resultSource? (binder : Binder) (operation : Operation) (source : NavigationSource) :
    Option NavigationSource := do
  let type ← binder.model.resultType? operation
  let _ ← type.itemType.entity?
  let path ← operation.decl.entitySetPath
  binder.followNames source ((Text.pieces '/' path).drop 1)

/-- A call on what the path leads to. -/
def bindBound (binder : Binder) (place : Place) (type : ModelType) (token : Token)
    (operations : List Operation) : Except TokenFault Segment := do
  let arguments := Argument.ofValues token.values
  let operation ← binder.model.selectOverload id (some type) arguments operations
  return binder.callSegment token.identifier (.operation operation arguments) operation
    (place.source.bind (binder.resultSource? operation))

/-- A property that is not declared, or nothing at all. -/
def bindOpen (binder : Binder) (current : ModelType) (identifier : String) :
    Except TokenFault Segment :=
  if binder.model.isOpen current then
    .ok ⟨identifier, .openProperty identifier, some .untyped, .single, none⟩
  else .error (.notFound (.type current.fullName))

/-- The segment of a token behind a place with a type. -/
def bindOn (binder : Binder) (place : Place) (current : ModelType) (token : Token) :
    Except TokenFault Segment :=
  let identifier := token.identifier
  match binder.propertyNamed? current identifier with
  | some property => .ok (binder.propertySegment place identifier property)
  | none =>
    match binder.castTargets identifier with
    | [target] => binder.bindCast place current identifier target
    | first :: second :: others =>
      .error (.ambiguous ((first :: second :: others).map ModelType.fullName))
    | [] =>
      let type := place.cardinality.wrap current
      match binder.boundCandidates identifier type with
      | operation :: others => binder.bindBound place type token (operation :: others)
      | [] => binder.bindOpen current identifier

def bindNext (binder : Binder) (place : Place) (token : Token) : Except TokenFault Segment :=
  match place.type with
  | some current => binder.bindOn place current token
  | none => .error (.notFound .noResult)

/-! ### Chains -/

/-- The key that the values of a token write behind its segment. -/
def bindKey (binder : Binder) (segment : Segment) (token : Token) :
    Except TokenFault (Option (List KeyValue)) :=
  if token.values.isEmpty || segment.isCall then .ok none
  else
    match binder.model.keyAt binder.settings.ignoreCase segment.place token.values with
    | .ok values => .ok (some values)
    | .error fault => .error (.key fault)

/-- The step of a token whose segment is known. -/
def finishStep (binder : Binder) (token : Token) (segment : Segment) :
    Except TokenFault Step :=
  (binder.bindKey segment token).map fun key => ⟨segment, key⟩

/-- A fault of the token at a position. -/
def faultAt {α : Type} (index : Nat) (token : Token) :
    Except TokenFault α → Except BindingError α
  | .ok value => .ok value
  | .error fault => .error (.token index token.identifier fault)

/-- The steps of tokens behind a place. -/
def bindRest (binder : Binder) (place : Place) (index : Nat) :
    List Token → Except BindingError (List Step)
  | [] => .ok []
  | token :: rest => do
    let step ← faultAt index token
      (binder.bindNext place token >>= binder.finishStep token)
    let others ← binder.bindRest step.place (index + 1) rest
    return step :: others

/-- The steps of tokens, from a place or from the container. -/
def bindTokens (binder : Binder) : Option Place → List Token →
    Except BindingError (List Step)
  | some place, tokens => binder.bindRest place 0 tokens
  | none, [] => .ok []
  | none, token :: rest =>
    match binder.container with
    | none => .error .noContainer
    | some container => do
      let step ← faultAt 0 token (binder.bindRoot container token >>= binder.finishStep token)
      let others ← binder.bindRest step.place 1 rest
      return step :: others

/-- The position and the identifier of the first system token. -/
def firstSystem? (index : Nat) : List Token → Option (Nat × String)
  | [] => none
  | token :: rest =>
    if token.isSystem then some (index, token.identifier) else firstSystem? (index + 1) rest

/-- The path of tokens, from a place or from the container. -/
def bindChain (binder : Binder) (start : Option Place) (tokens : List Token) :
    Except BindingError ResourcePath :=
  if tokens.isEmpty then .error .emptyPath
  else if binder.settings.maxSegments < tokens.length then
    .error (.tooManySegments tokens.length binder.settings.maxSegments)
  else
    match firstSystem? 0 tokens with
    | some (index, identifier) => .error (.token index identifier .illegal)
    | none => (binder.bindTokens start tokens).map ResourcePath.mk

/-- The path of a chain whose first token names a member of the container. -/
def bind (binder : Binder) (chain : Chain) : Except BindingError ResourcePath :=
  binder.bindChain none chain.tokens

/-- Where a path stands that starts at a source. -/
def placeOf (binder : Binder) (source : NavigationSource) : Place :=
  let type := binder.model.sourceType source
  ⟨some type.split.1, type.split.2, some source⟩

/-- The path of a chain that starts at a source. -/
def bindFrom (binder : Binder) (source : NavigationSource) (chain : Chain) :
    Except BindingError ResourcePath :=
  binder.bindChain (some (binder.placeOf source)) chain.tokens

/-- The position and the text of the first raw segment with the mark of system tokens. -/
def firstMarked? (index : Nat) : List String → Option (Nat × String)
  | [] => none
  | text :: rest =>
    if text.toList.head? = some Token.systemMark then some (index, text)
    else firstMarked? (index + 1) rest

/-- The path of raw segments.  The mark of system tokens is refused before anything else is
read. -/
def bindSegments (binder : Binder) (segments : List String) :
    Except BindingError ResourcePath :=
  match firstMarked? 0 segments with
  | some (index, text) => .error (.token index text .illegal)
  | none =>
    match Chain.ofSegments segments with
    | .ok chain => binder.bind chain
    | .error error => .error (.malformed error)

end Binder
end ResourcePaths
