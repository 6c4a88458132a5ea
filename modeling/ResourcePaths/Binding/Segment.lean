import ResourcePaths.Literal.Parser
import ResourcePaths.Model.Operation
import ResourcePaths.Path.Chain

/-!
# Bound paths

A bound path has one step for each token.  A step is a segment and, where values behind the
token pick one entity of a collection, the key.
-/

namespace ResourcePaths

/-- How many values a segment leads to. -/
inductive Cardinality where
  /-- One value. -/
  | single
  /-- Any number of values. -/
  | collection
  deriving DecidableEq, Repr

/-- The value of a key property. -/
structure KeyValue where
  /-- The name of the property, as it is declared. -/
  name : String
  value : Literal
  /-- The text of the value in the path. -/
  text : String
  deriving DecidableEq, Repr

/-- A value that a call of an operation gives for a parameter. -/
structure Argument where
  /-- The name of the parameter, where it is given. -/
  name : Option String
  /-- The text in the path. -/
  text : String
  /-- The value, when the text writes one. -/
  literal : Option Literal
  deriving DecidableEq, Repr

/-- What a segment stands for. -/
inductive SegmentKind where
  /-- An entity set or a singleton. -/
  | source (source : DeclaredSource)
  /-- A navigation property. -/
  | navigation (property : NavigationProperty)
  /-- A structural property. -/
  | property (property : StructuralProperty)
  /-- The values of a type alone. -/
  | cast (type : ModelType)
  /-- A call of an operation. -/
  | operation (operation : Operation) (arguments : List Argument)
  /-- A call of an operation by the name of an import. -/
  | imported (imp : OperationImport) (operation : Operation) (arguments : List Argument)
  /-- A property of an open type that is not declared. -/
  | openProperty (name : String)
  /-- The entity of a collection that has a key. -/
  | key (values : List KeyValue)
  deriving DecidableEq, Repr

/-- A segment of a bound path. -/
structure Segment where
  /-- The identifier of the token. -/
  identifier : String
  /-- What the segment stands for. -/
  kind : SegmentKind
  /-- The type of the values, one by one; nothing behind an operation without a result. -/
  type : Option ModelType
  /-- How many values there are. -/
  cardinality : Cardinality
  /-- The source that the entities come from, when it is known. -/
  source : Option NavigationSource
  deriving DecidableEq, Repr

/-- What a path leads to so far. -/
structure Place where
  /-- The type of the values, one by one. -/
  type : Option ModelType
  /-- How many values there are. -/
  cardinality : Cardinality
  /-- The source that the entities come from, when it is known. -/
  source : Option NavigationSource
  deriving DecidableEq, Repr

/-- What a token is bound to. -/
structure Step where
  /-- The segment of the identifier. -/
  segment : Segment
  /-- The key that the values behind the identifier write. -/
  key : Option (List KeyValue)
  deriving DecidableEq, Repr

/-- A bound path. -/
structure ResourcePath where
  /-- The steps, one for each token. -/
  steps : List Step
  deriving DecidableEq, Repr

/-- The type of the items and their number, for a type that may be that of a collection. -/
def ModelType.split : ModelType → ModelType × Cardinality
  | collection item => (item, .collection)
  | other => (other, .single)

/-- The type of as many values of a type. -/
def Cardinality.wrap : Cardinality → ModelType → ModelType
  | single, type => type
  | collection, type => .collection type

/-- The arguments that the values of a token write. -/
def Argument.ofValues (values : List NamedValue) : List Argument :=
  values.map fun value => ⟨value.name, value.value, Literal.ofText? value.value⟩

/-- What a segment stands for, in words. -/
def SegmentKind.name : SegmentKind → String
  | source declared =>
    match declared.kind with
    | .entitySet => "entity set"
    | .singleton => "singleton"
  | navigation _ => "navigation property"
  | property _ => "property"
  | cast _ => "type cast"
  | operation _ _ => "operation"
  | imported _ _ _ => "operation import"
  | openProperty _ => "open property"
  | key _ => "key"

namespace Place

/-- The type of all values together. -/
def fullType (place : Place) : Option ModelType :=
  place.type.map place.cardinality.wrap

end Place

namespace Segment

/-- Where the path stands behind the segment. -/
def place (segment : Segment) : Place :=
  ⟨segment.type, segment.cardinality, segment.source⟩

/-- The type of all values together. -/
def fullType (segment : Segment) : Option ModelType :=
  segment.place.fullType

/-- Whether values behind the token are arguments, and not a key. -/
def isCall (segment : Segment) : Bool :=
  match segment.kind with
  | .operation _ _ | .imported _ _ _ => true
  | _ => false

/-- The segment of the entity of a collection that has a key. -/
def keyed (segment : Segment) (values : List KeyValue) : Segment :=
  { segment with kind := .key values, cardinality := .single }

end Segment

namespace Step

/-- The segments of the step: that of the identifier, then that of the key. -/
def segments (step : Step) : List Segment :=
  match step.key with
  | some values => [step.segment, step.segment.keyed values]
  | none => [step.segment]

/-- Where the path stands behind the step. -/
def place (step : Step) : Place :=
  match step.key with
  | some values => (step.segment.keyed values).place
  | none => step.segment.place

end Step

namespace ResourcePath

def segments (path : ResourcePath) : List Segment :=
  path.steps.flatMap Step.segments

/-- The number of segments. -/
def length (path : ResourcePath) : Nat :=
  path.segments.length

/-- What the whole path leads to. -/
def place? (path : ResourcePath) : Option Place :=
  path.steps.getLast?.map Step.place

end ResourcePath
end ResourcePaths
