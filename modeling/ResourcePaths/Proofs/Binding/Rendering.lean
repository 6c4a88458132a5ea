import ResourcePaths.Proofs.Binding.Keys

/-!
# Bound paths as tokens

A step is written as one token: the declared name of its segment, and behind it either the
arguments of a call or the values of a key.  That token is what the text of the step spells.
-/

namespace ResourcePaths

namespace Argument

/-- The values that a call gives for parameters, as they are written. -/
def asValues (arguments : List Argument) : List NamedValue :=
  arguments.map fun argument => ⟨argument.name, argument.text⟩

@[simp]
theorem asValues_ofValues (values : List NamedValue) : asValues (ofValues values) = values := by
  rw [asValues, ofValues, List.map_map]
  exact List.map_id values

end Argument

namespace Segment

/-- The name that the segment is written by: calls of an import are named for the import. -/
def ownName (segment : Segment) : String :=
  match segment.kind with
  | .imported imp _ _ => imp.name
  | _ => segment.text

/-- The arguments behind the name. -/
def ownValues (segment : Segment) : List NamedValue :=
  match segment.kind with
  | .operation _ arguments | .imported _ _ arguments => Argument.asValues arguments
  | _ => []

/-- The segment with its own name in place of the one that led to it. -/
def renamed (segment : Segment) : Segment :=
  { segment with identifier := segment.ownName }

/-- Segments that stand for the same and lead to the same, whatever the names are that led to
them. -/
structure Agrees (segment other : Segment) : Prop where
  kind : segment.kind = other.kind
  type : segment.type = other.type
  cardinality : segment.cardinality = other.cardinality
  source : segment.source = other.source

theorem render_eq (segment : Segment) :
    segment.render = segment.ownName ++ Token.renderValues segment.ownValues := by
  have hbare : Token.renderValues [] = "" := rfl
  obtain ⟨identifier, kind, type, cardinality, source⟩ := segment
  cases kind with
  | operation | imported => rfl
  | source | navigation | property | cast | openProperty | key =>
      simp only [ownValues, hbare, String.append_empty]
      rfl

theorem ownValues_of_isCall_eq_false {segment : Segment} (h : segment.isCall = false) :
    segment.ownValues = [] := by
  obtain ⟨identifier, kind, type, cardinality, source⟩ := segment
  cases kind with
  | operation | imported => contradiction
  | source | navigation | property | cast | openProperty | key => rfl

end Segment

namespace Step

/-- The token that the step is written as. -/
def ownToken (step : Step) : Token :=
  .plain step.segment.ownName
    (match step.key with
    | none => step.segment.ownValues
    | some values => KeyValue.asValues values)

/-- The step with the own name of its segment. -/
def renamed (step : Step) : Step :=
  { step with segment := step.segment.renamed }

@[simp]
theorem type_place (step : Step) : step.place.type = step.segment.type := by
  obtain ⟨segment, key⟩ := step
  cases key <;> rfl

@[simp]
theorem place_renamed (step : Step) : step.renamed.place = step.place := by
  obtain ⟨segment, key⟩ := step
  cases key <;> rfl

@[simp]
theorem render_renamed (step : Step) : step.renamed.render = step.render := by
  obtain ⟨segment, key⟩ := step
  cases key <;> rfl

/-- The text of a step is that of its own token, since keys are not empty and calls have none. -/
theorem render_eq {step : Step}
    (hkey : ∀ values ∈ step.key, values ≠ [] ∧ step.segment.isCall = false) :
    step.render = step.ownToken.render := by
  obtain ⟨segment, key⟩ := step
  cases key with
  | none =>
      show String.join [segment.render] = segment.ownName ++ Token.renderValues segment.ownValues
      rw [← segment.render_eq]
      simp
  | some values =>
      obtain ⟨hne, hcall⟩ := hkey values rfl
      have hsegment : segment.render = segment.ownName := by
        rw [segment.render_eq, Segment.ownValues_of_isCall_eq_false hcall]
        exact String.append_empty
      show String.join [segment.render, KeyValue.renderAll values] =
        segment.ownName ++ Token.renderValues (KeyValue.asValues values)
      rw [hsegment, KeyValue.renderAll_eq hne]
      simp

theorem agrees_renamed (step : Step) :
    List.Forall₂ Segment.Agrees step.segments step.renamed.segments := by
  obtain ⟨segment, key⟩ := step
  cases key with
  | none => exact .cons ⟨rfl, rfl, rfl, rfl⟩ .nil
  | some values => exact .cons ⟨rfl, rfl, rfl, rfl⟩ (.cons ⟨rfl, rfl, rfl, rfl⟩ .nil)

end Step

/-- The segments of the path whose steps have their own names. -/
theorem ResourcePath.agrees_renamed (path : ResourcePath) :
    List.Forall₂ Segment.Agrees path.segments
      (ResourcePath.mk (path.steps.map Step.renamed)).segments := by
  obtain ⟨steps⟩ := path
  simp only [segments]
  induction steps with
  | nil => exact .nil
  | cons step steps ih => exact List.rel_append step.agrees_renamed ih

namespace Binder

variable {binder : Binder} {place : Place}

/-! ### The segments of the binder -/

theorem ownName_propertySegment (identifier : String) (property : Property) :
    (binder.propertySegment place identifier property).ownName = property.name := by
  cases property <;> rfl

theorem renamed_propertySegment (identifier : String) (property : Property) :
    (binder.propertySegment place identifier property).renamed =
      binder.propertySegment place property.name property := by
  cases property <;> rfl

theorem isCall_propertySegment (identifier : String) (property : Property) :
    (binder.propertySegment place identifier property).isCall = false := by
  cases property <;> rfl

section Calls

variable (identifier : String) (operation : Operation) (source : Option NavigationSource)

theorem renamed_callSegment (kind : SegmentKind) :
    (binder.callSegment identifier kind operation source).renamed =
      binder.callSegment (binder.callSegment identifier kind operation source).ownName kind
        operation source := by
  simp only [callSegment]
  split <;> rfl

theorem isCall_operation (arguments : List Argument) :
    (binder.callSegment identifier (.operation operation arguments) operation source).isCall =
      true := by
  rw [Segment.isCall, kind_callSegment]

theorem ownValues_operation (values : List NamedValue) :
    (binder.callSegment identifier (.operation operation (Argument.ofValues values)) operation
      source).ownValues = values := by
  simp only [Segment.ownValues, kind_callSegment, Argument.asValues_ofValues]

theorem ownName_operation (arguments : List Argument) :
    (binder.callSegment identifier (.operation operation arguments) operation source).ownName =
      operation.fullName := by
  simp only [Segment.ownName, Segment.text, kind_callSegment]

theorem isCall_imported (imp : OperationImport) (arguments : List Argument) :
    (binder.callSegment identifier (.imported imp operation arguments) operation
      source).isCall = true := by
  rw [Segment.isCall, kind_callSegment]

theorem ownValues_imported (imp : OperationImport) (values : List NamedValue) :
    (binder.callSegment identifier (.imported imp operation (Argument.ofValues values)) operation
      source).ownValues = values := by
  simp only [Segment.ownValues, kind_callSegment, Argument.asValues_ofValues]

theorem ownName_imported (imp : OperationImport) (arguments : List Argument) :
    (binder.callSegment identifier (.imported imp operation arguments) operation
      source).ownName = imp.name := by
  simp only [Segment.ownName, kind_callSegment]

end Calls

end Binder
end ResourcePaths
