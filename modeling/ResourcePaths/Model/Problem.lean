import ResourcePaths.Declared.Basic

/-!
# Problems of a model

What can be wrong with a declaration.  A problem never stops the construction of a model; it is
reported, with its place, by the element that has it.
-/

namespace ResourcePaths

/-- The two kinds of structured types. -/
inductive StructuredKind where
  /-- A type with a key. -/
  | entity
  /-- A type without a key. -/
  | complex
  deriving DecidableEq, Repr

/-- The kind in words. -/
def StructuredKind.name : StructuredKind → String
  | entity => "entity"
  | complex => "complex"

/-- The code of a problem. -/
inductive ErrorCode where
  | invalidLiteral
  | unresolvedType
  | unresolvedOperation
  | unresolvedTerm
  | unresolvedEntitySet
  | unresolvedNavigationTarget
  | ambiguousTypeName
  | duplicateElementName
  | duplicatePropertyName
  | duplicateParameterName
  | duplicateMemberName
  | duplicateEnumMemberName
  | cyclicBaseType
  | keyMissing
  | keyPropertyNotFound
  | invalidNavigationType
  | invalidEnumUnderlyingType
  | invalidDefinitionUnderlyingType
  | bindingParameterMissing
  | returnTypeMissing
  | boundOperationImported
  | modelUnavailable
  deriving DecidableEq, Repr

def ErrorCode.name : ErrorCode → String
  | invalidLiteral => "InvalidLiteral"
  | unresolvedType => "BadUnresolvedType"
  | unresolvedOperation => "BadUnresolvedOperation"
  | unresolvedTerm => "BadUnresolvedTerm"
  | unresolvedEntitySet => "BadUnresolvedEntitySet"
  | unresolvedNavigationTarget => "BadUnresolvedNavigationTarget"
  | ambiguousTypeName => "AmbiguousTypeName"
  | duplicateElementName => "DuplicateSchemaElementName"
  | duplicatePropertyName => "DuplicatePropertyName"
  | duplicateParameterName => "DuplicateParameterName"
  | duplicateMemberName => "DuplicateEntityContainerMemberName"
  | duplicateEnumMemberName => "DuplicateEnumMemberName"
  | cyclicBaseType => "CyclicBaseType"
  | keyMissing => "KeyMissingOnEntityType"
  | keyPropertyNotFound => "KeyPropertyNotFound"
  | invalidNavigationType => "InvalidNavigationPropertyType"
  | invalidEnumUnderlyingType => "InvalidEnumUnderlyingType"
  | invalidDefinitionUnderlyingType => "InvalidTypeDefinitionUnderlyingType"
  | bindingParameterMissing => "BoundOperationMustHaveParameters"
  | returnTypeMissing => "FunctionMustHaveReturnType"
  | boundOperationImported => "OperationImportCannotImportBoundOperation"
  | modelUnavailable => "ModelUnavailable"

/-- What a reference to a structured type is for. -/
inductive StructuredUse where
  /-- A base type, or the type of an entity set or singleton. -/
  | plain
  /-- The target of a navigation property. -/
  | navigation
  deriving DecidableEq, Repr

/-- The code of a reference that leads to a type of another kind. -/
def StructuredUse.code : StructuredUse → ErrorCode
  | plain => .unresolvedType
  | navigation => .invalidNavigationType

/-- What is wrong with a declaration. -/
inductive Problem where
  /-- The text of a constant does not fit its kind. -/
  | invalidLiteral (text : String) (kind : Declared.ConstantKind)
  /-- The name leads nowhere, for no reason that is known. -/
  | unresolvedName (name : String)
  /-- There is no type of this name. -/
  | unresolvedType (name : String)
  /-- There are several types of this name. -/
  | ambiguousType (name : String) (count : Nat)
  /-- The type of this name is not of the kind asked for. -/
  | wrongKind (name : String) (kind : StructuredKind) (use : StructuredUse)
  /-- The type of this name is not structured. -/
  | notStructured (name : String) (use : StructuredUse)
  /-- The element of this name is not a type. -/
  | notType (name : String)
  /-- There is no operation of this name. -/
  | unresolvedOperation (name : String)
  /-- An import names no operation. -/
  | unknownImport (importName operation : String)
  /-- An import names a bound operation. -/
  | boundImport (importName operation : String)
  /-- An import names no entity set. -/
  | unknownImportSet (importName set : String)
  /-- There is no term of this name. -/
  | unresolvedTerm (name : String)
  /-- A navigation binding leads to no source. -/
  | unknownTarget (path source target : String)
  /-- Another element has the same name. -/
  | duplicateElement (name : String)
  /-- Another property of the type, or of a base type, has the same name. -/
  | duplicateProperty (property type : String)
  /-- Another parameter of the operation has the same name. -/
  | duplicateParameter (parameter operation : String)
  /-- Another member of the container has the same name. -/
  | duplicateMember (member container : String)
  /-- Another member of the enumeration type has the same name. -/
  | duplicateEnumMember (member : String)
  /-- The base types lead in a circle. -/
  | cyclicBase (type : String)
  /-- An entity type has no key. -/
  | keyMissing (type : String)
  /-- A name in a key is not that of a structural property. -/
  | keyPropertyNotFound (property type : String)
  /-- The type below an enumeration type is not integral. -/
  | enumUnderlyingType (type : String)
  /-- The type below a type definition is not primitive. -/
  | definitionUnderlyingType (type : String)
  /-- A bound operation has no parameter. -/
  | bindingParameterMissing (operation : String)
  /-- A function has no result. -/
  | returnTypeMissing (function : String)
  /-- The model is gone. -/
  | modelUnavailable
  deriving DecidableEq, Repr

/-- The kind of constants in words. -/
def Declared.ConstantKind.title : Declared.ConstantKind → String
  | binary => "Binary"
  | boolean => "Boolean"
  | date => "Date"
  | dateTimeOffset => "DateTimeOffset"
  | decimal => "Decimal"
  | duration => "Duration"
  | floating => "Floating"
  | guid => "Guid"
  | integer => "Integer"
  | string => "String"
  | timeOfDay => "TimeOfDay"

namespace Problem

def code : Problem → ErrorCode
  | invalidLiteral _ _ => .invalidLiteral
  | unresolvedName _ => .unresolvedType
  | unresolvedType _ => .unresolvedType
  | ambiguousType _ _ => .ambiguousTypeName
  | wrongKind _ _ use => use.code
  | notStructured _ use => use.code
  | notType _ => .unresolvedType
  | unresolvedOperation _ => .unresolvedOperation
  | unknownImport _ _ => .unresolvedOperation
  | boundImport _ _ => .boundOperationImported
  | unknownImportSet _ _ => .unresolvedEntitySet
  | unresolvedTerm _ => .unresolvedTerm
  | unknownTarget _ _ _ => .unresolvedNavigationTarget
  | duplicateElement _ => .duplicateElementName
  | duplicateProperty _ _ => .duplicatePropertyName
  | duplicateParameter _ _ => .duplicateParameterName
  | duplicateMember _ _ => .duplicateMemberName
  | duplicateEnumMember _ => .duplicateEnumMemberName
  | cyclicBase _ => .cyclicBaseType
  | keyMissing _ => .keyMissing
  | keyPropertyNotFound _ _ => .keyPropertyNotFound
  | enumUnderlyingType _ => .invalidEnumUnderlyingType
  | definitionUnderlyingType _ => .invalidDefinitionUnderlyingType
  | bindingParameterMissing _ => .bindingParameterMissing
  | returnTypeMissing _ => .returnTypeMissing
  | modelUnavailable => .modelUnavailable

/-- The problem in words. -/
def message : Problem → String
  | invalidLiteral text kind => s!"`{text}` is not a valid {kind.title} literal"
  | unresolvedName name => s!"`{name}` could not be resolved"
  | unresolvedType name => s!"cannot resolve type `{name}`"
  | ambiguousType name count =>
    s!"type name `{name}` is ambiguous between {count} declarations"
  | wrongKind name kind _ => s!"`{name}` is not of {kind.name} type kind"
  | notStructured name _ => s!"`{name}` is not a structured type"
  | notType name => s!"`{name}` is not a type"
  | unresolvedOperation name => s!"operation `{name}` could not be resolved"
  | unknownImport importName operation =>
    s!"import `{importName}` refers to unknown operation `{operation}`"
  | boundImport importName operation =>
    s!"import `{importName}` refers to bound operation `{operation}`"
  | unknownImportSet importName set =>
    s!"import `{importName}` refers to unknown entity set `{set}`"
  | unresolvedTerm name => s!"term `{name}` could not be resolved"
  | unknownTarget path source target =>
    s!"binding `{path}` of `{source}` targets unknown source `{target}`"
  | duplicateElement name => s!"`{name}` is declared more than once"
  | duplicateProperty property type =>
    s!"property `{property}` is defined more than once on `{type}`"
  | duplicateParameter parameter operation =>
    s!"parameter `{parameter}` is declared more than once on `{operation}`"
  | duplicateMember member container =>
    s!"`{member}` is declared more than once in `{container}`"
  | duplicateEnumMember member => s!"member `{member}` is defined more than once"
  | cyclicBase type => s!"the base type chain of `{type}` is cyclic"
  | keyMissing type => s!"entity type `{type}` has no key"
  | keyPropertyNotFound property type =>
    s!"key property `{property}` is not a structural property of `{type}`"
  | enumUnderlyingType type => s!"`{type}` is not an integral primitive type"
  | definitionUnderlyingType type => s!"`{type}` is not a primitive type"
  | bindingParameterMissing operation =>
    s!"bound operation `{operation}` has no binding parameter"
  | returnTypeMissing function => s!"function `{function}` has no return type"
  | modelUnavailable => "the owning model has been dropped"

end Problem

/-- A problem and its place. -/
structure ModelError where
  /-- The place of the declaration. -/
  location : Declared.Location
  /-- What is wrong. -/
  problem : Problem
  deriving DecidableEq, Repr

namespace ModelError

def code (error : ModelError) : ErrorCode :=
  error.problem.code

/-- The problem and its place in words. -/
def render (error : ModelError) : String :=
  error.location.render ++ ": " ++ error.code.name ++ ": " ++ error.problem.message

end ModelError

/-- A value and the problems met on the way to it. -/
structure Resolved (α : Type) where
  value : α
  errors : List ModelError
  deriving DecidableEq, Repr

namespace Resolved

/-- A value without problems. -/
def clean {α : Type} (value : α) : Resolved α := ⟨value, []⟩

/-- The value changed, the problems kept. -/
def map {α β : Type} (f : α → β) (resolved : Resolved α) : Resolved β :=
  ⟨f resolved.value, resolved.errors⟩

end Resolved
end ResourcePaths
