import ResourcePaths.Model.Container

/-!
# Operations and their imports

An operation may be bound to its first parameter: it is then called on a value of that type.
An import lets a container call the unbound overloads of an operation by another name.
-/

namespace ResourcePaths

/-- A parameter and its place in its operation. -/
structure Parameter where
  operation : ElementId
  /-- The position among the parameters. -/
  position : Nat
  decl : Declared.Parameter
  /-- The place of the operation. -/
  location : Declared.Location
  deriving DecidableEq, Repr

/-- An import and its place in its container. -/
structure OperationImport where
  container : ElementId
  /-- The position among the imports. -/
  position : Nat
  /-- Whether actions or functions are imported. -/
  kind : OperationKind
  name : String
  /-- The qualified name of the operation. -/
  operationName : String
  /-- The name of the entity set of the results. -/
  entitySet : Option String
  /-- Whether the import is shown in the service document. -/
  isListed : Bool
  /-- The place of the declaration. -/
  location : Declared.Location
  deriving DecidableEq, Repr

namespace Parameter

def referenceIn (context : Option Model) (parameter : Parameter) : Resolved TypeReference :=
  TypeReference.resolveIn context parameter.decl.typeName parameter.location fun model =>
    model.resolve parameter.decl.typeName parameter.location

end Parameter

namespace Operation

def parameters (operation : Operation) : List Parameter :=
  operation.decl.parameters.zipIdx.map fun (decl, position) =>
    ⟨operation.id, position, decl, operation.decl.location⟩

/-- The first parameter with a name. -/
def findParameter? (operation : Operation) (name : String) : Option Parameter :=
  operation.parameters.find? fun parameter => parameter.decl.name = name

/-- The parameter that a bound operation is called on. -/
def bindingParameter? (operation : Operation) : Option Parameter :=
  if operation.decl.isBound then operation.parameters.head? else none

/-- The parameters that a call gives itself. -/
def callParameters (operation : Operation) : List Parameter :=
  if operation.decl.isBound then operation.parameters.drop 1 else operation.parameters

/-- The type of the result, where there is one. -/
def resultReferenceIn (context : Option Model) (operation : Operation) :
    Resolved (Option TypeReference) :=
  match operation.decl.returnType with
  | none => .clean none
  | some result =>
    (TypeReference.resolveIn context result.typeName operation.decl.location fun model =>
      model.resolve result.typeName operation.decl.location).map some

/-- The problem of a parameter whose name has been seen. -/
def repeatErrors (operation : Operation) (seen : List String) (parameter : Parameter) :
    List ModelError :=
  if seen.contains parameter.decl.name then
    [⟨operation.decl.location, .duplicateParameter parameter.decl.name operation.fullName⟩]
  else []

/-- The problems of the parameters: of each one that it comes again, and those of its type. -/
def parameterErrors (operation : Operation) (errorsOf : Parameter → List ModelError) :
    List String → List Parameter → List ModelError
  | _, [] => []
  | seen, parameter :: rest =>
    operation.repeatErrors seen parameter ++ errorsOf parameter ++
      operation.parameterErrors errorsOf (parameter.decl.name :: seen) rest

/-- The problems of an operation, from those of its parts. -/
def gatherErrors (operation : Operation) (duplicate parameters result : List ModelError) :
    List ModelError :=
  duplicate ++
  (if operation.decl.isBound && operation.parameters.isEmpty then
    [⟨operation.decl.location, .bindingParameterMissing operation.fullName⟩] else []) ++
  (if operation.kind = .function && operation.decl.returnType.isNone then
    [⟨operation.decl.location, .returnTypeMissing operation.fullName⟩] else []) ++
  parameters ++ result

end Operation

namespace OperationImport

/-- Whether an operation is one that the import may import. -/
def accepts (imp : OperationImport) (operation : Operation) : Bool :=
  operation.kind = imp.kind && !operation.decl.isBound

/-- The numbers of the operations that the import exposes, and its problems. -/
def resolveOperations (model : Model) (imp : OperationImport) :
    Resolved (List ElementId) :=
  let group := (model.findOperations imp.operationName).filter fun operation =>
    operation.kind = imp.kind
  { value := (group.filter imp.accepts).map (·.id)
    errors :=
      if group.isEmpty then
        [⟨imp.location, .unknownImport imp.name imp.operationName⟩]
      else
        (group.filter fun operation => operation.decl.isBound).map fun _ =>
          ⟨imp.location, .boundImport imp.name imp.operationName⟩ }

/-- The numbers of the operations that the import exposes, in a context. -/
def operationsIn (context : Option Model) (imp : OperationImport) :
    Resolved (List ElementId) :=
  match context with
  | some model => imp.resolveOperations model
  | none => ⟨[], [⟨imp.location, .modelUnavailable⟩]⟩

def follow (context : Option Model) (ids : List ElementId) : List Operation :=
  match context with
  | some model => ids.filterMap fun id => (model.element? id).bind Element.operation?
  | none => []

/-- The name of the entity set, without that of its container. -/
def setName? (imp : OperationImport) : Option String :=
  imp.entitySet.map fun name =>
    match Text.cutLast? '/' name.toList with
    | some (_, back) => String.ofList back
    | none => name

/-- The entity set of the results. -/
def entitySetIn? (context : Option Model) (imp : OperationImport) :
    Option DeclaredSource := do
  let name ← imp.setName?
  let model ← context
  let container ← model.container? imp.container
  container.findEntitySet? name

/-- The problem of an import whose entity set does not exist. -/
def entitySetErrors (context : Option Model) (imp : OperationImport) : List ModelError :=
  match imp.entitySet with
  | some name =>
    if (imp.entitySetIn? context).isSome then []
    else [⟨imp.location, .unknownImportSet imp.name name⟩]
  | none => []

end OperationImport

namespace Container

/-- The imports of a container: those of actions first. -/
def imports (container : Container) : List OperationImport :=
  let actions := container.decl.actionImports.map fun decl position =>
    ({ container := container.id, position := position, kind := .action, name := decl.name,
       operationName := decl.action, entitySet := decl.entitySet, isListed := false,
       location := decl.location } : OperationImport)
  let functions := container.decl.functionImports.map fun decl position =>
    ({ container := container.id, position := position, kind := .function, name := decl.name,
       operationName := decl.function, entitySet := decl.entitySet,
       isListed := decl.includeInServiceDocument, location := decl.location } : OperationImport)
  (actions ++ functions).zipIdx.map fun (imp, position) => imp position

/-- The imports with a name; where none has it exactly, those whose names differ in case
only. -/
def findImports (container : Container) (name : String) (ignoreCase : Bool := false) :
    List OperationImport :=
  let exact := container.imports.filter fun imp => imp.name = name
  if exact.isEmpty && ignoreCase then
    container.imports.filter fun imp => Text.alike imp.name name
  else exact

/-- The names of the members, and for each import the operation that it imports. -/
def memberNames (container : Container) : List (String × Option String) :=
  (container.entitySets ++ container.singletons).map (fun source => (source.name, none)) ++
  container.imports.map fun imp => (imp.name, some imp.operationName)

/-- The names that clash with the first member of that name.  Imports of one operation do
not. -/
def clashes : List (String × Option String) → List (String × Option String) → List String
  | _, [] => []
  | seen, (name, group) :: rest =>
    match seen.lookup name with
    | some first =>
      if group.isSome && first = group then clashes seen rest else name :: clashes seen rest
    | none => clashes ((name, group) :: seen) rest

/-- The problems of a container, from those of its parts. -/
def gatherErrors (container : Container) (duplicate : List ModelError)
    (sources imports : List ModelError) : List ModelError :=
  duplicate ++
  (clashes [] container.memberNames).map
    (fun name => ⟨container.decl.location, .duplicateMember name container.fullName⟩) ++
  sources ++ imports

end Container

namespace Model

def parameterType (model : Model) (parameter : Parameter) : ModelType :=
  (parameter.referenceIn (some model)).value.follow (some model)

/-- The type of the result of an operation, where there is one. -/
def resultType? (model : Model) (operation : Operation) : Option ModelType :=
  (operation.resultReferenceIn (some model)).value.map (·.follow (some model))

/-- Whether an operation can be called on a value of a type. -/
def isBoundTo (model : Model) (type : ModelType) (operation : Operation) : Bool :=
  operation.bindingParameter?.any fun parameter =>
    model.isAssignable (model.parameterType parameter) type

/-- The operations that can be called on a value of a type. -/
def findBoundOperations (model : Model) (type : ModelType) : List Operation :=
  model.operations.filter (model.isBoundTo type)

def operationErrors (model : Model) (operation : Operation) : List ModelError :=
  operation.gatherErrors (model.duplicateErrors (.operation operation) operation.decl.location)
    (operation.parameterErrors (fun parameter => (parameter.referenceIn (some model)).errors) []
      operation.parameters)
    (operation.resultReferenceIn (some model)).errors

def importedOperations (model : Model) (imp : OperationImport) : List Operation :=
  OperationImport.follow (some model) (imp.operationsIn (some model)).value

/-- The entity set of the results of an import. -/
def importedSet? (model : Model) (imp : OperationImport) : Option DeclaredSource :=
  imp.entitySetIn? (some model)

def importErrors (model : Model) (imp : OperationImport) : List ModelError :=
  (imp.operationsIn (some model)).errors ++ imp.entitySetErrors (some model)

def containerErrors (model : Model) (container : Container) : List ModelError :=
  container.gatherErrors (model.duplicateErrors (.container container) container.decl.location)
    ((container.entitySets ++ container.singletons).flatMap model.sourceErrors)
    (container.imports.flatMap model.importErrors)

end Model
end ResourcePaths
