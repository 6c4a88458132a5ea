import ResourcePaths.Model.Name
import ResourcePaths.Model.Primitive
import ResourcePaths.Model.Problem

/-!
# Elements of a model

An element is a declaration together with its place in the model: the number under which the
model keeps it, and its namespace.  Elements of one model are the same exactly when their
numbers are.
-/

namespace ResourcePaths

/-- The number of an element in its model. -/
abbrev ElementId := Nat

/-- The kinds of schema elements. -/
inductive ElementKind where
  | action
  | function
  | entityType
  | complexType
  | enumType
  | typeDefinition
  | term
  | entityContainer
  deriving DecidableEq, Repr

namespace ElementKind

def name : ElementKind → String
  | action => "Action"
  | function => "Function"
  | entityType => "EntityType"
  | complexType => "ComplexType"
  | enumType => "EnumType"
  | typeDefinition => "TypeDefinition"
  | term => "Term"
  | entityContainer => "EntityContainer"

/-- Whether elements of the kind are operations. -/
def isOperation : ElementKind → Bool
  | action | function => true
  | _ => false

/-- Whether elements of the kind are types. -/
def isType : ElementKind → Bool
  | entityType | complexType | enumType | typeDefinition => true
  | _ => false

/-- Whether elements of two kinds may share a name: only overloads of one kind may. -/
def mayShare (left right : ElementKind) : Bool :=
  left = right && left.isOperation

end ElementKind

/-- The kind of the elements that are structured types of a kind. -/
def StructuredKind.elementKind : StructuredKind → ElementKind
  | entity => .entityType
  | complex => .complexType

/-- An entity type or a complex type. -/
structure StructuredType where
  id : ElementId
  namespaceName : String
  /-- Whether it is an entity type or a complex type. -/
  kind : StructuredKind
  decl : Declared.StructuredType
  deriving DecidableEq, Repr

/-- An enumeration type. -/
structure EnumType where
  id : ElementId
  namespaceName : String
  decl : Declared.EnumType
  deriving DecidableEq, Repr

/-- A second name for a primitive type. -/
structure TypeDefinition where
  id : ElementId
  namespaceName : String
  decl : Declared.TypeDefinition
  deriving DecidableEq, Repr

/-- The two kinds of operations. -/
inductive OperationKind where
  | action
  | function
  deriving DecidableEq, Repr

/-- The kind of the elements that are operations of a kind. -/
def OperationKind.elementKind : OperationKind → ElementKind
  | action => .action
  | function => .function

/-- An action or a function. -/
structure Operation where
  id : ElementId
  namespaceName : String
  /-- Whether it is an action or a function. -/
  kind : OperationKind
  decl : Declared.Operation
  deriving DecidableEq, Repr

/-- A vocabulary term. -/
structure Term where
  id : ElementId
  namespaceName : String
  decl : Declared.Term
  deriving DecidableEq, Repr

/-- An entity container. -/
structure Container where
  id : ElementId
  namespaceName : String
  decl : Declared.Container
  deriving DecidableEq, Repr

/-- The qualified name of a structured type. -/
def StructuredType.fullName (type : StructuredType) : String :=
  Name.qualify type.namespaceName type.decl.name

/-- The qualified name of an enumeration type. -/
def EnumType.fullName (type : EnumType) : String :=
  Name.qualify type.namespaceName type.decl.name

/-- The qualified name of a type definition. -/
def TypeDefinition.fullName (type : TypeDefinition) : String :=
  Name.qualify type.namespaceName type.decl.name

/-- The qualified name of an operation. -/
def Operation.fullName (operation : Operation) : String :=
  Name.qualify operation.namespaceName operation.decl.name

/-- The qualified name of a term. -/
def Term.fullName (term : Term) : String :=
  Name.qualify term.namespaceName term.decl.name

/-- The qualified name of a container. -/
def Container.fullName (container : Container) : String :=
  Name.qualify container.namespaceName container.decl.name

/-- An element of a model. -/
inductive Element where
  | structured (node : StructuredType)
  | enum (node : EnumType)
  | definition (node : TypeDefinition)
  | operation (node : Operation)
  | term (node : Term)
  | container (node : Container)
  deriving DecidableEq, Repr

namespace Element

def id : Element → ElementId
  | structured node => node.id
  | enum node => node.id
  | definition node => node.id
  | operation node => node.id
  | term node => node.id
  | container node => node.id

def kind : Element → ElementKind
  | structured node => node.kind.elementKind
  | enum _ => .enumType
  | definition _ => .typeDefinition
  | operation node => node.kind.elementKind
  | term _ => .term
  | container _ => .entityContainer

def namespaceName : Element → String
  | structured node => node.namespaceName
  | enum node => node.namespaceName
  | definition node => node.namespaceName
  | operation node => node.namespaceName
  | term node => node.namespaceName
  | container node => node.namespaceName

/-- The simple name of the element. -/
def name : Element → String
  | structured node => node.decl.name
  | enum node => node.decl.name
  | definition node => node.decl.name
  | operation node => node.decl.name
  | term node => node.decl.name
  | container node => node.decl.name

/-- The qualified name of the element. -/
def fullName (element : Element) : String :=
  Name.qualify element.namespaceName element.name

def operation? : Element → Option Operation
  | operation node => some node
  | _ => none

def term? : Element → Option Term
  | term node => some node
  | _ => none

def container? : Element → Option Container
  | container node => some node
  | _ => none

def structured? : Element → Option StructuredType
  | structured node => some node
  | _ => none

end Element

/-- What stands in for an element that a name does not lead to.  It keeps the name and says what
went wrong. -/
structure Placeholder where
  namespaceName : String
  /-- The simple name. -/
  name : String
  /-- The kind of the element that was asked for. -/
  kind : ElementKind
  /-- What went wrong. -/
  errors : List ModelError
  /-- There is always something that went wrong. -/
  errors_ne_nil : errors ≠ []
  deriving DecidableEq, Repr

namespace Placeholder

/-- The placeholder for a qualified name.  Where no problem is given, the problem is that the name
leads nowhere. -/
def ofName (name : String) (kind : ElementKind) (errors : List ModelError) : Placeholder where
  namespaceName := (Name.split name).1
  name := (Name.split name).2
  kind := kind
  errors := if errors.isEmpty then [⟨{}, .unresolvedName name⟩] else errors
  errors_ne_nil := by
    split
    · exact List.cons_ne_nil _ _
    · rename_i hfilled
      rwa [List.isEmpty_iff] at hfilled

/-- Problems that are given are kept. -/
theorem errors_ofName (name : String) (kind : ElementKind) {errors : List ModelError}
    (h : errors ≠ []) : (ofName name kind errors).errors = errors :=
  if_neg (by rwa [List.isEmpty_iff])

/-- The qualified name of the placeholder. -/
def fullName (placeholder : Placeholder) : String :=
  Name.qualify placeholder.namespaceName placeholder.name

end Placeholder

/-- A reference to a type, as it is stored: elements by their numbers. -/
inductive TypeReference where
  | primitive (type : Primitive)
  | element (id : ElementId)
  | collection (item : TypeReference)
  | untyped
  | bad (placeholder : Placeholder)
  deriving DecidableEq, Repr

/-- A type, with the elements themselves. -/
inductive ModelType where
  | primitive (type : Primitive)
  | structured (type : StructuredType)
  | enum (type : EnumType)
  | definition (type : TypeDefinition)
  | collection (item : ModelType)
  | untyped
  | bad (placeholder : Placeholder)
  deriving DecidableEq, Repr

namespace ModelType

def fullName : ModelType → String
  | primitive type => type.name
  | structured type => type.fullName
  | enum type => type.fullName
  | definition type => type.fullName
  | collection item => "Collection(" ++ item.fullName ++ ")"
  | untyped => "Edm.Untyped"
  | bad placeholder => placeholder.fullName

def isCollection : ModelType → Bool
  | collection _ => true
  | _ => false

/-- Whether the type is a placeholder, or a collection of one. -/
def isBad : ModelType → Bool
  | bad _ => true
  | collection item => item.isBad
  | _ => false

/-- The type of the items of a collection; any other type itself. -/
def itemType : ModelType → ModelType
  | collection item => item
  | other => other

def structured? : ModelType → Option StructuredType
  | structured type => some type
  | _ => none

def entity? : ModelType → Option StructuredType
  | structured type => if type.kind = .entity then some type else none
  | _ => none

/-- What went wrong on the way to the type. -/
def errors : ModelType → List ModelError
  | bad placeholder => placeholder.errors
  | collection item => item.errors
  | _ => []

end ModelType

/-- The type that an element is, when it is one. -/
def Element.type? : Element → Option ModelType
  | structured node => some (.structured node)
  | enum node => some (.enum node)
  | definition node => some (.definition node)
  | _ => none

end ResourcePaths
