import ResourcePaths.Binding.Error
import ResourcePaths.Binding.Segment

/-!
# Overloads

Several operations may share a name.  A call picks the one that takes its arguments; of several
such, those that are bound to exactly the type of the value it is made on.
-/

namespace ResourcePaths

namespace Argument

/-- The names of the arguments, when all of them have one. -/
def names? (arguments : List Argument) : Option (List String) :=
  arguments.mapM (·.name)

/-- The first name that comes again. -/
def repeated? (arguments : List Argument) : Option String :=
  (repeatedBy id [] (arguments.filterMap (·.name))).head?

end Argument

/-- Whether an operation takes arguments.  An action takes any; a function takes those that name
its parameters, each once, and otherwise as many as it has parameters. -/
def Operation.takes (operation : Operation) (arguments : List Argument) : Bool :=
  operation.kind = .action ||
    operation.callParameters.length = arguments.length &&
      match Argument.names? arguments with
      | some names => operation.callParameters.all fun parameter =>
          names.contains parameter.decl.name
      | none => true

namespace Model

/-- The name of an operation with the types of its parameters. -/
def signature (model : Model) (operation : Operation) : String :=
  operation.fullName ++ "(" ++
    Text.joined ", " (operation.parameters.map fun parameter =>
      (model.parameterType parameter).fullName) ++ ")"

/-- Whether an operation is bound to exactly a type. -/
def isBoundExactlyTo (model : Model) (type : ModelType) (operation : Operation) : Bool :=
  operation.bindingParameter?.any fun parameter => model.parameterType parameter = type

/-- The candidates that are bound to exactly a type, if there are any; else all of them. -/
def preferExact {α : Type} (model : Model) (operationOf : α → Operation)
    (bindingType : Option ModelType) (candidates : List α) : List α :=
  match bindingType with
  | none => candidates
  | some type =>
    let exact := candidates.filter fun candidate =>
      model.isBoundExactlyTo type (operationOf candidate)
    if exact.isEmpty then candidates else exact

/-- The candidate that a call picks. -/
def selectOverload {α : Type} (model : Model) (operationOf : α → Operation)
    (bindingType : Option ModelType) (arguments : List Argument) (candidates : List α) :
    Except TokenFault α :=
  match Argument.repeated? arguments with
  | some name => .error (.notFound (.repeatedParameter name))
  | none =>
    let taking := candidates.filter fun candidate => (operationOf candidate).takes arguments
    match model.preferExact operationOf bindingType taking with
    | [] => .error (.notFound (.overloads arguments.length))
    | [candidate] => .ok candidate
    | many => .error (.ambiguous (many.map fun candidate =>
        model.signature (operationOf candidate)))

end Model
end ResourcePaths
