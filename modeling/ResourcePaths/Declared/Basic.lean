/-!
# Schema descriptions

What a schema document declares, as it is written: references are names, and nothing is
resolved or checked.  Names may be repeated or refer to nothing.
-/

namespace ResourcePaths
namespace Declared

/-- A place in a schema document. -/
structure Location where
  /-- The document, where it is known. -/
  source : Option String := none
  /-- The line; zero where it is not known. -/
  line : UInt32 := 0
  /-- The column; zero where it is not known. -/
  column : UInt32 := 0
  deriving DecidableEq, Repr, Inhabited

/-- A place in words. -/
def Location.render (location : Location) : String :=
  let line := toString location.line.toNat
  let column := toString location.column.toNat
  match location.source with
  | some source => source ++ ":" ++ line ++ ":" ++ column
  | none => "(" ++ line ++ ", " ++ column ++ ")"

/-- A structural property. -/
structure Property where
  name : String
  typeName : String
  nullable : Bool := true
  defaultValue : Option String := none
  location : Location := {}
  deriving DecidableEq, Repr, Inhabited

/-- A navigation property. -/
structure NavigationProperty where
  name : String
  /-- The name of an entity type, or of a collection of one. -/
  typeName : String
  nullable : Bool := true
  /-- The name of the property that leads back. -/
  partner : Option String := none
  containsTarget : Bool := false
  location : Location := {}
  deriving DecidableEq, Repr, Inhabited

/-- An entity type or a complex type. -/
structure StructuredType where
  name : String := ""
  baseType : Option String := none
  isAbstract : Bool := false
  isOpen : Bool := false
  /-- The names of the key properties; only entity types have a key. -/
  key : Option (List String) := none
  properties : List Property := []
  navigationProperties : List NavigationProperty := []
  location : Location := {}
  deriving DecidableEq, Repr, Inhabited

/-- A member of an enumeration type. -/
structure EnumMember where
  name : String
  /-- The value, where one is written. -/
  value : Option Int64 := none
  deriving DecidableEq, Repr, Inhabited

/-- An enumeration type. -/
structure EnumType where
  name : String := ""
  underlyingType : Option String := none
  isFlags : Bool := false
  members : List EnumMember := []
  location : Location := {}
  deriving DecidableEq, Repr, Inhabited

/-- A second name for a primitive type. -/
structure TypeDefinition where
  name : String := ""
  underlyingType : String := ""
  location : Location := {}
  deriving DecidableEq, Repr, Inhabited

/-- A parameter of an operation. -/
structure Parameter where
  name : String
  typeName : String
  nullable : Bool := true
  deriving DecidableEq, Repr, Inhabited

/-- The result of an operation. -/
structure ReturnType where
  typeName : String
  nullable : Bool := true
  deriving DecidableEq, Repr, Inhabited

/-- An action or a function; the list that it stands in tells which. -/
structure Operation where
  name : String := ""
  isBound : Bool := false
  isComposable : Bool := false
  entitySetPath : Option String := none
  parameters : List Parameter := []
  returnType : Option ReturnType := none
  location : Location := {}
  deriving DecidableEq, Repr, Inhabited

/-- A vocabulary term. -/
structure Term where
  name : String := ""
  typeName : String := ""
  appliesTo : List String := []
  defaultValue : Option String := none
  location : Location := {}
  deriving DecidableEq, Repr, Inhabited

/-- The source at which a navigation property of another source ends. -/
structure Binding where
  /-- The navigation property, perhaps behind a type cast. -/
  path : String
  /-- The name of the target, perhaps behind the name of its container. -/
  target : String
  deriving DecidableEq, Repr, Inhabited

/-- An entity set. -/
structure EntitySet where
  name : String
  entityType : String
  bindings : List Binding := []
  includeInServiceDocument : Bool := true
  location : Location := {}
  deriving DecidableEq, Repr, Inhabited

/-- A singleton. -/
structure Singleton where
  name : String
  typeName : String
  bindings : List Binding := []
  location : Location := {}
  deriving DecidableEq, Repr, Inhabited

/-- An import of actions. -/
structure ActionImport where
  name : String
  action : String
  entitySet : Option String := none
  location : Location := {}
  deriving DecidableEq, Repr, Inhabited

/-- An import of functions. -/
structure FunctionImport where
  name : String
  function : String
  entitySet : Option String := none
  includeInServiceDocument : Bool := false
  location : Location := {}
  deriving DecidableEq, Repr, Inhabited

/-- An entity container. -/
structure Container where
  name : String := ""
  entitySets : List EntitySet := []
  singletons : List Singleton := []
  actionImports : List ActionImport := []
  functionImports : List FunctionImport := []
  location : Location := {}
  deriving DecidableEq, Repr, Inhabited

/-- The kind of a constant: it tells how the text of the constant is read. -/
inductive ConstantKind where
  | binary
  | boolean
  | date
  | dateTimeOffset
  | decimal
  | duration
  | floating
  | guid
  | integer
  | string
  | timeOfDay
  deriving DecidableEq, Repr, Inhabited

/-- A constant. -/
structure Constant where
  kind : ConstantKind
  text : String
  location : Location := {}
  deriving DecidableEq, Repr, Inhabited

/-- The value of an annotation. -/
inductive Expression where
  /-- A constant. -/
  | constant (value : Constant)
  /-- A path to a property. -/
  | path (path : String) (location : Location)
  /-- The name of an operation. -/
  | operationReference (operation : String) (location : Location)
  /-- Expressions in their order. -/
  | collection (items : List Expression) (location : Location)
  /-- No value. -/
  | null (location : Location)
  deriving Repr, Inhabited

mutual

/-- Decides whether two expressions are written alike. -/
def Expression.decEq : (left right : Expression) → Decidable (left = right)
  | .constant value, .constant value' => decidable_of_iff (value = value') (by simp)
  | .path text place, .path text' place' =>
    decidable_of_iff (text = text' ∧ place = place') (by simp)
  | .operationReference name place, .operationReference name' place' =>
    decidable_of_iff (name = name' ∧ place = place') (by simp)
  | .collection items place, .collection items' place' =>
    have := Expression.decEqList items items'
    decidable_of_iff (items = items' ∧ place = place') (by simp)
  | .null place, .null place' => decidable_of_iff (place = place') (by simp)
  | .constant _, .path _ _ | .constant _, .operationReference _ _
  | .constant _, .collection _ _ | .constant _, .null _
  | .path _ _, .constant _ | .path _ _, .operationReference _ _
  | .path _ _, .collection _ _ | .path _ _, .null _
  | .operationReference _ _, .constant _ | .operationReference _ _, .path _ _
  | .operationReference _ _, .collection _ _ | .operationReference _ _, .null _
  | .collection _ _, .constant _ | .collection _ _, .path _ _
  | .collection _ _, .operationReference _ _ | .collection _ _, .null _
  | .null _, .constant _ | .null _, .path _ _
  | .null _, .operationReference _ _ | .null _, .collection _ _ => isFalse nofun

/-- Decides whether two lists of expressions are written alike. -/
def Expression.decEqList : (left right : List Expression) → Decidable (left = right)
  | [], [] => isTrue rfl
  | item :: rest, item' :: rest' =>
    have := Expression.decEq item item'
    have := Expression.decEqList rest rest'
    decidable_of_iff (item = item' ∧ rest = rest') (by simp)
  | [], _ :: _ | _ :: _, [] => isFalse nofun

end

instance : DecidableEq Expression := Expression.decEq

def Expression.location : Expression → Location
  | constant value => value.location
  | path _ location => location
  | operationReference _ location => location
  | collection _ location => location
  | null location => location

/-- The application of a term. -/
structure Annotation where
  term : String
  qualifier : Option String := none
  expression : Expression
  location : Location := {}
  deriving DecidableEq, Repr, Inhabited

/-- The annotations of one target. -/
structure AnnotationGroup where
  target : String := ""
  annotations : List Annotation := []
  location : Location := {}
  deriving DecidableEq, Repr, Inhabited

/-- The declarations of one namespace. -/
structure Schema where
  namespaceName : String := ""
  /-- A short name that may stand for the namespace. -/
  shortName : Option String := none
  entityTypes : List StructuredType := []
  complexTypes : List StructuredType := []
  enumTypes : List EnumType := []
  typeDefinitions : List TypeDefinition := []
  actions : List Operation := []
  functions : List Operation := []
  terms : List Term := []
  containers : List Container := []
  annotations : List AnnotationGroup := []
  location : Location := {}
  deriving DecidableEq, Repr, Inhabited

/-- A description: schemas in their order. -/
structure Description where
  schemas : List Schema := []
  deriving DecidableEq, Repr, Inhabited

end Declared
end ResourcePaths
