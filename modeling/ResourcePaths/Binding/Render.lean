import ResourcePaths.Binding.Segment

/-!
# The text of bound paths

A bound path is written with the declared names: the identifiers of the tokens, which may differ
in case or use a short name for a namespace, do not come back.
-/

namespace ResourcePaths

namespace KeyValue

/-- A value of a key with its name. -/
def render (value : KeyValue) : String :=
  value.name ++ "=" ++ value.text

/-- A key in parentheses; a single value needs no name. -/
def renderAll : List KeyValue → String
  | [value] => "(" ++ value.text ++ ")"
  | values => "(" ++ Text.joined "," (values.map render) ++ ")"

end KeyValue

namespace Argument

/-- The arguments of a call in parentheses, or nothing where there are none. -/
def renderAll (arguments : List Argument) : String :=
  Token.renderValues (arguments.map fun argument => ⟨argument.name, argument.text⟩)

end Argument

namespace Segment

/-- The name of what the segment stands for, and a key in parentheses.  Calls are named for the
operation, with an import or without. -/
def text (segment : Segment) : String :=
  match segment.kind with
  | .source source => source.name
  | .navigation property => property.decl.name
  | .property property => property.decl.name
  | .cast type => type.fullName
  | .operation operation _ => operation.fullName
  | .imported _ operation _ => operation.fullName
  | .openProperty name => name
  | .key values => KeyValue.renderAll values

/-- The segment in a path.  Calls are written with their arguments, and those of an import by
the name of the import. -/
def render (segment : Segment) : String :=
  match segment.kind with
  | .operation _ arguments => segment.text ++ Argument.renderAll arguments
  | .imported imp _ arguments => imp.name ++ Argument.renderAll arguments
  | _ => segment.text

end Segment

/-- The step in a path: the segment, and the key behind it. -/
def Step.render (step : Step) : String :=
  String.join (step.segments.map Segment.render)

/-- The path with slashes between the steps. -/
def ResourcePath.render (path : ResourcePath) : String :=
  Text.joined "/" (path.steps.map Step.render)

end ResourcePaths
