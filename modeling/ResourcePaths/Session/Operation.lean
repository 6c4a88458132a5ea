import ResourcePaths.Session.Container

/-!
# Operations and their imports in a session
-/

namespace ResourcePaths
namespace Session

/-- The type of a parameter with the problems of it. -/
def parameterReference (parameter : Parameter) : Reading (Resolved TypeReference) :=
  rememberIn (.parameterType parameter) fun context => parameter.referenceIn context

def parameterType (parameter : Parameter) : Reading ModelType := do
  follow (← parameterReference parameter).value

/-- The type of the result of an operation with the problems of it. -/
def resultReference (operation : Operation) : Reading (Resolved (Option TypeReference)) :=
  rememberIn (.resultType operation) fun context => operation.resultReferenceIn context

/-- The type of the result of an operation, where there is one. -/
def resultType? (operation : Operation) : Reading (Option ModelType) := do
  let reference := (← resultReference operation).value
  let context ← context
  return reference.map (·.follow context)

/-- Whether an operation can be called on a value of a type. -/
def isBoundTo (type : ModelType) (operation : Operation) : Reading Bool := do
  match operation.bindingParameter? with
  | some parameter => isAssignable (← parameterType parameter) type
  | none => return false

/-- The operations that can be called on a value of a type. -/
def findBoundOperations (type : ModelType) : Reading (List Operation) := do
  match ← context with
  | some model =>
    model.operations.flatMapM fun operation => do
      return if ← isBoundTo type operation then [operation] else []
  | none => return []

/-- The problems of the parameters, each after that of its coming again. -/
def parameterErrors (operation : Operation) :
    List String → List Parameter → Reading (List ModelError)
  | _, [] => return []
  | seen, parameter :: rest => do
    let errors := (← parameterReference parameter).errors
    let others ← parameterErrors operation (parameter.decl.name :: seen) rest
    return operation.repeatErrors seen parameter ++ errors ++ others

def operationErrors (operation : Operation) : Reading (List ModelError) :=
  remember (.elementErrors (.operation operation)) do
    let duplicate :=
      Model.duplicateErrorsIn (← context) (.operation operation) operation.decl.location
    let parameters ← parameterErrors operation [] operation.parameters
    let result := (← resultReference operation).errors
    return operation.gatherErrors duplicate parameters result

/-- The operations that an import exposes with the problems of it. -/
def importedReferences (imp : OperationImport) : Reading (Resolved (List ElementId)) :=
  rememberIn (.imported imp) fun context => imp.operationsIn context

/-- The operations that an import exposes; none, and none remembered, without a model. -/
def importedOperations (imp : OperationImport) : Reading (List Operation) := do
  match ← context with
  | some model => return OperationImport.follow (some model) (← importedReferences imp).value
  | none => return []

/-- The entity set of the results of an import. -/
def importedSet? (imp : OperationImport) : Reading (Option DeclaredSource) :=
  return imp.entitySetIn? (← context)

def importErrors (imp : OperationImport) : Reading (List ModelError) :=
  remember (.importErrors imp) do
    let operations := (← importedReferences imp).errors
    return operations ++ imp.entitySetErrors (← context)

def containerErrors (container : Container) : Reading (List ModelError) :=
  remember (.elementErrors (.container container)) do
    let duplicate :=
      Model.duplicateErrorsIn (← context) (.container container) container.decl.location
    let sources ← (container.entitySets ++ container.singletons).flatMapM sourceErrors
    let imports ← container.imports.flatMapM importErrors
    return container.gatherErrors duplicate sources imports

end Session
end ResourcePaths
