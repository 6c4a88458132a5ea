import ResourcePaths.Model.Annotation
import ResourcePaths.Proofs.Model.Lookup

/-!
# What references lead to

A name of a type leads to a type of the model, or to a placeholder.  The placeholder carries the
problems that were met on the way, and there is at least one of them: no reference goes astray in
silence.
-/

namespace ResourcePaths

/-- The placeholder at the bottom of a type, if there is one. -/
def ModelType.placeholder? : ModelType → Option Placeholder
  | bad placeholder => some placeholder
  | collection item => item.placeholder?
  | _ => none

/-- The types without an element are those that a placeholder stands in for. -/
theorem ModelType.isBad_iff (type : ModelType) :
    type.isBad = true ↔ ∃ placeholder, type.placeholder? = some placeholder := by
  induction type with
  | bad placeholder => simp [isBad, placeholder?]
  | collection item ih => exact ih
  | primitive | structured | enum | definition | untyped => simp [isBad, placeholder?]

/-- A reference to a type of the model, or to a placeholder that carries all problems met. -/
structure Resolved.Reports (model : Model) (resolved : Resolved TypeReference) : Prop where
  carried : ∀ placeholder, (resolved.value.follow (some model)).placeholder? = some placeholder →
    placeholder.errors = resolved.errors

/-- An element of the kind of a type is what its number leads to, and no other element is a type. -/
theorem Element.type?_eq (element : Element) :
    element.type? =
      if element.kind.isType then some (TypeReference.ofElement (some element)) else none := by
  cases element with
  | structured node =>
      obtain ⟨id, ns, kind, decl⟩ := node
      cases kind <;> rfl
  | operation node =>
      obtain ⟨id, ns, kind, decl⟩ := node
      cases kind <;> rfl
  | enum | definition | term | container => rfl

namespace TypeReference

variable {model : Model}

theorem reports_failed (name : String) (kind : ElementKind) (location : Declared.Location)
    (problem : Problem) : (failed name kind location problem).Reports model := by
  constructor
  rintro placeholder ⟨rfl⟩
  rfl

theorem follow_wrap (layers : Nat) (reference : TypeReference) :
    ((wrap layers reference).follow (some model)).placeholder? =
      (reference.follow (some model)).placeholder? := by
  induction layers with
  | zero => rfl
  | succ layers ih => exact ih

theorem ofElement_of_isType {element : Element} (h : element.kind.isType = true) :
    (ofElement (some element)).placeholder? = none := by
  cases element with
  | structured | enum | definition => rfl
  | operation node =>
      obtain ⟨id, ns, kind, decl⟩ := node
      cases kind <;> contradiction
  | term | container => contradiction

end TypeReference

namespace Model

open TypeReference

variable {model : Model}

theorem isType_of_mem_typeIdsOf {name : String} {id : ElementId}
    (h : id ∈ model.typeIdsOf name) :
    ∃ element, model.element? id = some element ∧ element.kind.isType = true := by
  have hany := (List.mem_filter.1 h).2
  exact (Option.any_eq_true _ _).1 hany

theorem resolveNamed_reports (name : String) (location : Declared.Location) :
    (model.resolveNamed name location).Reports model := by
  unfold resolveNamed
  split
  · constructor
    intro placeholder h
    contradiction
  · split
    · constructor
      intro placeholder h
      contradiction
    · split
      · rename_i id hid
        have hmem : id ∈ model.typeIdsOf name := by
          rw [hid]
          exact List.mem_singleton_self id
        obtain ⟨element, helement, htype⟩ := isType_of_mem_typeIdsOf hmem
        constructor
        intro placeholder h
        change (ofElement (model.element? id)).placeholder? = some placeholder at h
        rw [helement, ofElement_of_isType htype] at h
        contradiction
      · exact reports_failed ..
      · exact reports_failed ..

theorem resolve_reports (name : String) (location : Declared.Location) :
    (model.resolve name location).Reports model := by
  constructor
  intro placeholder h
  simp only [resolve, Resolved.map, follow_wrap] at h
  exact (resolveNamed_reports _ _).carried placeholder h

theorem resolveStructured_reports (name : String) (kind : StructuredKind)
    (location : Declared.Location) (use : StructuredUse) :
    (model.resolveStructured name kind location use).Reports model := by
  simp only [resolveStructured]
  split
  · split
    · split
      · exact model.resolve_reports name location
      · exact reports_failed ..
    · exact reports_failed ..
  · rename_i found _
    constructor
    rintro placeholder ⟨rfl⟩
    exact Placeholder.errors_ofName _ _ found.errors_ne_nil
  · exact reports_failed ..

theorem resolveTarget_reports (property : NavigationProperty) :
    (property.resolveTarget model).Reports model := by
  simp only [NavigationProperty.resolveTarget]
  split
  · exact ⟨(model.resolveStructured_reports ..).carried⟩
  · exact model.resolveStructured_reports ..

theorem property_reports (property : Property) :
    (property.referenceIn (some model)).Reports model := by
  cases property with
  | structural property => exact model.resolve_reports ..
  | navigation property => exact model.resolveTarget_reports property

end Model

/-! ### Problems of references -/

/-- The codes of what can be wrong with a reference to a type: its name leads nowhere, to several
types, or to a type that is not asked for. -/
def ErrorCode.isOfReference : ErrorCode → Bool
  | unresolvedType | ambiguousTypeName | invalidNavigationType => true
  | _ => false

/-- All problems are those of references to types. -/
def ReferenceErrors (errors : List ModelError) : Prop :=
  ∀ error ∈ errors, error.code.isOfReference = true

namespace Model

variable {model : Model}

theorem referenceErrors_failed {name : String} {kind : ElementKind} {location : Declared.Location}
    {problem : Problem} (h : problem.code.isOfReference = true) :
    ReferenceErrors (TypeReference.failed name kind location problem).errors := by
  intro error hmem
  obtain rfl := List.mem_singleton.1 hmem
  exact h

theorem referenceErrors_resolve (name : String) (location : Declared.Location) :
    ReferenceErrors (model.resolve name location).errors := by
  show ReferenceErrors (model.resolveNamed _ location).errors
  unfold resolveNamed
  split
  · exact List.forall_mem_nil _
  · split
    · exact List.forall_mem_nil _
    · split
      · exact List.forall_mem_nil _
      · exact referenceErrors_failed rfl
      · exact referenceErrors_failed rfl

theorem referenceErrors_resolveStructured (name : String) (kind : StructuredKind)
    (location : Declared.Location) (use : StructuredUse) :
    ReferenceErrors (model.resolveStructured name kind location use).errors := by
  have huse : use.code.isOfReference = true := by cases use <;> rfl
  have hresolve := model.referenceErrors_resolve name location
  simp only [resolveStructured]
  split
  · split
    · split
      · exact hresolve
      · exact referenceErrors_failed huse
    · exact referenceErrors_failed huse
  · rename_i found hfound
    -- The placeholder hands over the problems of the name.
    have herrors := (model.resolve_reports name location).carried found (by rw [hfound]; rfl)
    rwa [← herrors] at hresolve
  · exact referenceErrors_failed huse

theorem referenceErrors_base (type : StructuredType) :
    ReferenceErrors (type.baseReferenceIn (some model)).errors := by
  rw [StructuredType.baseReferenceIn]
  cases type.decl.baseType with
  | none => exact List.forall_mem_nil _
  | some name => exact referenceErrors_resolveStructured name _ _ _

theorem referenceErrors_property (property : Property) :
    ReferenceErrors (model.propertyErrors property) := by
  cases property with
  | structural node => exact referenceErrors_resolve _ _
  | navigation node =>
      show ReferenceErrors (node.resolveTarget model).errors
      simp only [NavigationProperty.resolveTarget]
      split
      · exact referenceErrors_resolveStructured _ _ _ _
      · exact referenceErrors_resolveStructured _ _ _ _

end Model

/-! ### Types of the model -/

/-- A type all of whose elements are those of a model. -/
def ModelType.Within (model : Model) : ModelType → Prop
  | structured type => .structured type ∈ model.elements
  | enum type => .enum type ∈ model.elements
  | definition type => .definition type ∈ model.elements
  | collection item => item.Within model
  | _ => True

namespace TypeReference

variable {model : Model}

theorem ofElement_within (id : ElementId) :
    (ofElement (model.element? id)).Within model := by
  cases helement : model.element? id with
  | none => trivial
  | some element =>
      have hmem : element ∈ model.elements := List.mem_of_getElem? helement
      cases element with
      | structured | enum | definition => exact hmem
      | operation | term | container => trivial

/-- Following a reference never leaves the model. -/
theorem follow_within (reference : TypeReference) :
    (reference.follow (some model)).Within model := by
  induction reference with
  | element id => exact ofElement_within id
  | collection item ih => exact ih
  | primitive | untyped | bad => trivial

end TypeReference
end ResourcePaths
