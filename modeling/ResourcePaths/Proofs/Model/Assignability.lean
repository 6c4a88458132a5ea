import Mathlib.Data.List.Basic
import ResourcePaths.Proofs.Model.Ancestors

/-!
# Assignability

Assignability is a preorder on the types without a placeholder at the bottom: between structured
types it is to be reached along base types, whatever circles these may lead in, and collections
follow their items.  What can be called on a value of a type can be called on a value of every type
that is assignable to it.
-/

namespace ResourcePaths

/-- No way along base types leads from the structured type at the bottom of a type back to it. -/
def ModelType.IsAcyclic (model : Model) : ModelType → Prop
  | structured type => ¬ Relation.TransGen model.HasBase type type
  | collection item => item.IsAcyclic model
  | _ => True

namespace Model

variable {model : Model} {target source : ModelType}

/-- The second type may stand where the first one is asked for. -/
inductive Accepts (model : Model) : ModelType → ModelType → Prop
  /-- A type that is not known takes all that is there. -/
  | untyped {source : ModelType} (h : ∀ placeholder, source ≠ .bad placeholder) :
      Accepts model .untyped source
  | primitive (type : Primitive) : Accepts model (.primitive type) (.primitive type)
  | structured {target source : StructuredType}
      (h : Relation.ReflTransGen model.HasBase source target) :
      Accepts model (.structured target) (.structured source)
  | enum (type : EnumType) : Accepts model (.enum type) (.enum type)
  | definition (type : TypeDefinition) : Accepts model (.definition type) (.definition type)
  | collection {target source : ModelType} (h : Accepts model target source) :
      Accepts model (.collection target) (.collection source)

theorem kind_of_reaches {type other : StructuredType}
    (h : Relation.ReflTransGen model.HasBase type other) : other.kind = type.kind := by
  induction h with
  | refl => rfl
  | tail _ hbase ih => rw [hbase.kind_eq, ih]

/-- Between structured types of a model assignability is to be reached along base types. -/
theorem isAssignable_structured_iff (hindexed : model.Indexed) {target source : StructuredType}
    (htarget : .structured target ∈ model.elements)
    (hsource : .structured source ∈ model.elements) :
    model.isAssignable (.structured target) (.structured source) = true ↔
      Relation.ReflTransGen model.HasBase source target := by
  rw [isAssignable, Bool.and_eq_true, decide_eq_true_eq, inherits_iff hindexed hsource htarget]
  exact ⟨And.right, fun hreaches => ⟨kind_of_reaches hreaches, hreaches⟩⟩

/-- What is assignable is accepted: types of different sorts never are, and elements are told apart
by their numbers. -/
theorem accepts_of_isAssignable (hindexed : model.Indexed) (htarget : target.Within model)
    (hsource : source.Within model) (h : model.isAssignable target source = true) :
    model.Accepts target source := by
  induction target generalizing source with
  | bad placeholder => contradiction
  | untyped =>
      refine .untyped ?_
      rintro placeholder rfl
      contradiction
  | primitive type =>
      cases source with
      | primitive other =>
          obtain rfl : type = other := of_decide_eq_true h
          exact .primitive type
      | structured | enum | definition | collection | untyped | bad => contradiction
  | structured type =>
      cases source with
      | structured other =>
          exact .structured ((isAssignable_structured_iff hindexed htarget hsource).1 h)
      | primitive | enum | definition | collection | untyped | bad => contradiction
  | enum type =>
      cases source with
      | enum other =>
          have hid : type.id = other.id := of_decide_eq_true h
          rw [Element.enum.inj (hindexed.eq_of_id_eq htarget hsource hid)]
          exact .enum other
      | primitive | structured | definition | collection | untyped | bad => contradiction
  | definition type =>
      cases source with
      | definition other =>
          have hid : type.id = other.id := of_decide_eq_true h
          rw [Element.definition.inj (hindexed.eq_of_id_eq htarget hsource hid)]
          exact .definition other
      | primitive | structured | enum | collection | untyped | bad => contradiction
  | collection item ih =>
      cases source with
      | collection other => exact .collection (ih htarget hsource h)
      | primitive | structured | enum | definition | untyped | bad => contradiction

theorem isAssignable_of_accepts (hindexed : model.Indexed) (htarget : target.Within model)
    (hsource : source.Within model) (h : model.Accepts target source) :
    model.isAssignable target source = true := by
  induction h with
  | @untyped source hne =>
      cases source with
      | bad placeholder => exact absurd rfl (hne placeholder)
      | primitive | structured | enum | definition | collection | untyped => rfl
  | primitive type => exact decide_eq_true rfl
  | structured hreaches =>
      exact (isAssignable_structured_iff hindexed htarget hsource).2 hreaches
  | enum type => exact decide_eq_true rfl
  | definition type => exact decide_eq_true rfl
  | collection _ ih => exact ih htarget hsource

theorem isAssignable_iff (hindexed : model.Indexed) (htarget : target.Within model)
    (hsource : source.Within model) :
    model.isAssignable target source = true ↔ model.Accepts target source :=
  ⟨accepts_of_isAssignable hindexed htarget hsource,
    isAssignable_of_accepts hindexed htarget hsource⟩

/-! ### A preorder -/

theorem isAssignable_self (model : Model) (type : ModelType) :
    model.isAssignable type type = !type.isBad := by
  induction type with
  | bad | untyped => rfl
  | primitive | enum | definition => simp [isAssignable, ModelType.isBad]
  | structured type => simp [isAssignable, inherits, ModelType.isBad]
  | collection item ih => exact ih

theorem Accepts.source_ne_bad (h : model.Accepts target source) (placeholder : Placeholder) :
    source ≠ .bad placeholder := by
  cases h with
  | untyped hne => exact hne placeholder
  | primitive | structured | enum | definition | collection => exact ModelType.noConfusion

theorem Accepts.trans {first second third : ModelType} (h : model.Accepts first second)
    (hnext : model.Accepts second third) : model.Accepts first third := by
  induction h generalizing third with
  | untyped => exact .untyped hnext.source_ne_bad
  | primitive | enum | definition => exact hnext
  | structured hfirst =>
      cases hnext with
      | structured hsecond => exact .structured (hsecond.trans hfirst)
  | collection _ ih =>
      cases hnext with
      | collection hitems => exact .collection (ih hitems)

/-- Types that take each other are one, unless base types lead in a circle. -/
theorem Accepts.antisymm (h : model.Accepts target source) (hback : model.Accepts source target)
    (hacyclic : target.IsAcyclic model) : target = source := by
  induction h with
  | untyped =>
      cases hback with
      | untyped => rfl
  | primitive | enum | definition => rfl
  | structured hreaches =>
      cases hback with
      | structured hagain =>
          rcases Relation.reflTransGen_iff_eq_or_transGen.1 hagain with heq | hstep
          · rw [heq]
          · exact absurd (hstep.trans_left hreaches) hacyclic
  | collection _ ih =>
      cases hback with
      | collection hitems => rw [ih hitems hacyclic]

/-! ### Bound operations -/

theorem parameterType_within (parameter : Parameter) :
    (model.parameterType parameter).Within model :=
  TypeReference.follow_within _

theorem isBoundTo_of_isAssignable (hindexed : model.Indexed) (htarget : target.Within model)
    (hsource : source.Within model) (h : model.isAssignable target source = true)
    {operation : Operation} (hbound : model.isBoundTo target operation = true) :
    model.isBoundTo source operation = true := by
  obtain ⟨parameter, hparameter, hassignable⟩ := (Option.any_eq_true _ _).1 hbound
  refine (Option.any_eq_true _ _).2 ⟨parameter, hparameter, ?_⟩
  have hwithin : (model.parameterType parameter).Within model := parameterType_within parameter
  rw [isAssignable_iff hindexed hwithin htarget] at hassignable
  rw [isAssignable_iff hindexed htarget hsource] at h
  exact (isAssignable_iff hindexed hwithin hsource).2 (hassignable.trans h)

/-- Operations come in the order of their declarations. -/
theorem pairwise_operations (hindexed : model.Indexed) :
    model.operations.Pairwise fun first second => first.id < second.id := by
  have hrising : model.elements.Pairwise fun first second => first.id < second.id := by
    rw [← List.pairwise_map, hindexed.map_id]
    exact List.pairwise_lt_range
  refine hrising.filterMap Element.operation? ?_
  intro first second hlt operation hoperation other hother
  cases first with
  | operation node =>
      cases second with
      | operation next =>
          obtain rfl := Option.some.inj hoperation
          obtain rfl := Option.some.inj hother
          exact hlt
      | structured | enum | definition | term | container => contradiction
  | structured | enum | definition | term | container => contradiction

/-- Assignability between the types of a model. -/
structure OrdersTypes (model : Model) : Prop where
  trans : ∀ first second third : ModelType, first.Within model → second.Within model →
    third.Within model → model.isAssignable first second = true →
    model.isAssignable second third = true → model.isAssignable first third = true
  refl : ∀ type, model.isAssignable type type = true ↔ type.isBad = false
  /-- Structured types are assignable along base types, and only so. -/
  structured : ∀ target source, .structured target ∈ model.elements →
    .structured source ∈ model.elements →
    (model.isAssignable (.structured target) (.structured source) = true ↔
      Relation.ReflTransGen model.HasBase source target)
  antisymm : ∀ target source : ModelType, target.Within model → source.Within model →
    target.IsAcyclic model → model.isAssignable target source = true →
    model.isAssignable source target = true → target = source
  /-- What can be called on a type can be called, in the same order, on all that is assignable. -/
  inherited : ∀ target source : ModelType, target.Within model → source.Within model →
    model.isAssignable target source = true →
    (model.findBoundOperations target).Sublist (model.findBoundOperations source)
  /-- Bound operations come in the order of their declarations. -/
  ordered : ∀ type, (model.findBoundOperations type).Sublist model.operations ∧
    (model.findBoundOperations type).Pairwise fun first second => first.id < second.id

/-- The types of every model are ordered by assignability, and what can be called on them follows
that order. -/
theorem ordersTypes (description : Declared.Description) :
    (ofDescription description).OrdersTypes := by
  have hindexed := indexed_ofDescription description
  constructor
  · intro first second third hfirst hsecond hthird h hnext
    rw [isAssignable_iff hindexed hfirst hsecond] at h
    rw [isAssignable_iff hindexed hsecond hthird] at hnext
    exact (isAssignable_iff hindexed hfirst hthird).2 (h.trans hnext)
  · intro type
    rw [isAssignable_self, Bool.not_eq_true']
  · intro target source htarget hsource
    exact isAssignable_structured_iff hindexed htarget hsource
  · intro target source htarget hsource hacyclic h hback
    rw [isAssignable_iff hindexed htarget hsource] at h
    rw [isAssignable_iff hindexed hsource htarget] at hback
    exact h.antisymm hback hacyclic
  · intro target source htarget hsource h
    exact List.monotone_filter_right _ fun operation hbound =>
      isBoundTo_of_isAssignable hindexed htarget hsource h hbound
  · intro type
    exact ⟨List.filter_sublist, (pairwise_operations hindexed).sublist List.filter_sublist⟩

/-- Two types that are each other's base type, a third one below them, and a call on the second. -/
def circle : Declared.Description where
  schemas := [{
    namespaceName := "N"
    entityTypes := [
      { name := "Upper", baseType := some "N.Lower" },
      { name := "Lower", baseType := some "N.Upper" },
      { name := "Leaf", baseType := some "N.Upper" }]
    actions := [
      { name := "mark", isBound := true, parameters := [{ name := "it", typeName := "N.Lower" }] },
      { name := "other", isBound := true, parameters := [{ name := "it", typeName := "N.Leaf" }] }]
  }]

/-- What can be called on a type in the circle can be called on the type below it.  The two types of
the circle take each other, and are not one. -/
theorem ordersTypes_circle :
    let model := ofDescription circle
    let upper : StructuredType :=
      ⟨0, "N", .entity, { name := "Upper", baseType := some "N.Lower" }⟩
    let lower : StructuredType :=
      ⟨1, "N", .entity, { name := "Lower", baseType := some "N.Upper" }⟩
    let leaf : StructuredType :=
      ⟨2, "N", .entity, { name := "Leaf", baseType := some "N.Upper" }⟩
    model.isAssignable (.structured lower) (.structured upper) = true ∧
      model.isAssignable (.structured upper) (.structured lower) = true ∧ upper ≠ lower ∧
      model.isAssignable (.structured lower) (.structured leaf) = true ∧
      (model.findBoundOperations (.structured lower)).map (·.decl.name) = ["mark"] ∧
      (model.findBoundOperations (.structured lower)).Sublist
        (model.findBoundOperations (.structured leaf)) := by
  intro model upper lower leaf
  have horder := ordersTypes circle
  have hupper : .structured upper ∈ model.elements := by decide +kernel
  have hlower : .structured lower ∈ model.elements := by decide +kernel
  have hleaf : .structured leaf ∈ model.elements := by decide +kernel
  have hleft : model.isAssignable (.structured lower) (.structured upper) = true := by
    decide +kernel
  have hright : model.isAssignable (.structured upper) (.structured leaf) = true := by
    decide +kernel
  have hleaves : model.isAssignable (.structured lower) (.structured leaf) = true :=
    horder.trans (.structured lower) (.structured upper) (.structured leaf) hlower hupper hleaf
      hleft hright
  exact ⟨hleft, by decide +kernel, by decide, hleaves, by decide +kernel,
    horder.inherited (.structured lower) (.structured leaf) hlower hleaf hleaves⟩

end Model
end ResourcePaths
