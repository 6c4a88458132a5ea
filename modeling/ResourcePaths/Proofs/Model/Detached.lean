import ResourcePaths.Proofs.Model.Resolution

/-!
# Types without their model

A stored reference leads to an element only as long as there is a model.  Without one it leads to a
placeholder, whatever the reference is: no element is ever reached.  What a model has resolved is a
reference to a type; so what is seen without the model is the type itself, with a placeholder in
place of each element.
-/

namespace ResourcePaths

namespace ModelType

/-- A type without any element in it. -/
def IsDetached : ModelType → Prop
  | structured _ | enum _ | definition _ => False
  | collection item => item.IsDetached
  | primitive _ | untyped | bad _ => True

/-- What stands for an element that was stored by its number, once the model is gone. -/
def lost : ModelType :=
  bad ⟨"", "", .typeDefinition, [⟨{}, .modelUnavailable⟩], List.cons_ne_nil _ _⟩

/-- A type as it is seen once its model is gone. -/
def detached : ModelType → ModelType
  | structured _ | enum _ | definition _ => lost
  | collection item => collection item.detached
  | other => other

theorem structured?_eq_none {type : ModelType} (h : type.IsDetached) : type.structured? = none := by
  cases type with
  | structured type => exact False.elim h
  | primitive | enum | definition | collection | untyped | bad => rfl

theorem entity?_eq_none {type : ModelType} (h : type.IsDetached) : type.entity? = none := by
  cases type with
  | structured type => exact False.elim h
  | primitive | enum | definition | collection | untyped | bad => rfl

theorem IsDetached.itemType {type : ModelType} (h : type.IsDetached) :
    type.itemType.IsDetached := by
  cases type with
  | collection item => exact h
  | primitive | structured | enum | definition | untyped | bad => exact h

end ModelType

namespace TypeReference

variable {model : Model}

/-- A reference all of whose numbers are those of types of a model. -/
def RefersToTypes (model : Model) : TypeReference → Prop
  | element id => ∃ element, model.element? id = some element ∧ element.kind.isType = true
  | collection item => item.RefersToTypes model
  | primitive _ | untyped | bad _ => True

/-- Without a model no reference leads to an element. -/
theorem isDetached_follow_none (reference : TypeReference) :
    (reference.follow none).IsDetached := by
  induction reference with
  | collection item ih => exact ih
  | primitive | element | untyped | bad => trivial

theorem detached_ofElement {element : Element} (h : element.kind.isType = true) :
    (ofElement (some element)).detached = .lost := by
  have hplaceholder := ofElement_of_isType h
  cases element with
  | structured | enum | definition => rfl
  | operation | term | container => contradiction

/-- What is seen of a reference to types once the model is gone. -/
theorem follow_none_eq_detached {reference : TypeReference}
    (h : reference.RefersToTypes model) :
    reference.follow none = (reference.follow (some model)).detached := by
  induction reference with
  | element id =>
      obtain ⟨element, helement, htype⟩ := h
      show ModelType.lost = (ofElement (model.element? id)).detached
      rw [helement, detached_ofElement htype]
  | collection item ih =>
      show ModelType.collection (item.follow none) =
        .collection (item.follow (some model)).detached
      rw [ih h]
  | primitive | untyped | bad => rfl

theorem refersToTypes_wrap {layers : Nat} {reference : TypeReference}
    (h : reference.RefersToTypes model) : (wrap layers reference).RefersToTypes model := by
  induction layers with
  | zero => exact h
  | succ layers ih => exact ih

end TypeReference

/-! ### What a model resolves -/

namespace Model

variable {model : Model}

theorem refersToTypes_resolveNamed (name : String) (location : Declared.Location) :
    (model.resolveNamed name location).value.RefersToTypes model := by
  unfold resolveNamed
  split
  · trivial
  · split
    · trivial
    · split
      · rename_i id hid
        have hmem : id ∈ model.typeIdsOf name := by
          rw [hid]
          exact List.mem_singleton_self id
        exact isType_of_mem_typeIdsOf hmem
      · trivial
      · trivial

theorem refersToTypes_resolve (name : String) (location : Declared.Location) :
    (model.resolve name location).value.RefersToTypes model :=
  TypeReference.refersToTypes_wrap (refersToTypes_resolveNamed _ _)

theorem refersToTypes_resolveStructured (name : String) (kind : StructuredKind)
    (location : Declared.Location) (use : StructuredUse) :
    (model.resolveStructured name kind location use).value.RefersToTypes model := by
  have hresolve := model.refersToTypes_resolve name location
  simp only [resolveStructured]
  split
  · split
    · split
      · exact hresolve
      · trivial
    · trivial
  · trivial
  · trivial

theorem refersToTypes_resolveTarget (property : NavigationProperty) :
    (property.resolveTarget model).value.RefersToTypes model := by
  simp only [NavigationProperty.resolveTarget]
  split
  · exact model.refersToTypes_resolveStructured ..
  · exact model.refersToTypes_resolveStructured ..

theorem refersToTypes_property (property : Property) :
    (property.referenceIn (some model)).value.RefersToTypes model := by
  cases property with
  | structural property => exact model.refersToTypes_resolve ..
  | navigation property => exact model.refersToTypes_resolveTarget property

theorem refersToTypes_base {type : StructuredType} {reference : TypeReference}
    (h : (type.baseReferenceIn (some model)).value = some reference) :
    reference.RefersToTypes model := by
  unfold StructuredType.baseReferenceIn at h
  split at h
  · contradiction
  · obtain rfl := Option.some.inj h
    exact model.refersToTypes_resolveStructured ..

theorem refersToTypes_result {operation : Operation} {reference : TypeReference}
    (h : (operation.resultReferenceIn (some model)).value = some reference) :
    reference.RefersToTypes model := by
  unfold Operation.resultReferenceIn at h
  split at h
  · contradiction
  · obtain rfl := Option.some.inj h
    exact model.refersToTypes_resolve ..

end Model
end ResourcePaths
