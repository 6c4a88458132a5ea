import Mathlib.Logic.Relation
import ResourcePaths.Proofs.Model.Inheritance

/-!
# Ways along base types

The walk along the base types of a type meets exactly the types that can be reached from there, on
every graph of base types.  Where base types lead in a circle, the walk ends at a type that it has
met before; nothing lies behind that type that has not been met, too.
-/

namespace ResourcePaths
namespace Model

variable {model : Model}

/-- A type has another one as its base type. -/
def HasBase (model : Model) (type base : StructuredType) : Prop :=
  model.baseStructured? type = some base

/-- Base types of one type are one. -/
theorem HasBase.unique {type base other : StructuredType} (h : model.HasBase type base)
    (hother : model.HasBase type other) : base = other :=
  Option.some.inj (h.symm.trans hother)

/-- A reference to a structured type of a kind leads to a type of that kind, or to none. -/
theorem kind_of_resolveStructured {name : String} {kind : StructuredKind}
    {location : Declared.Location} {use : StructuredUse} {type : StructuredType}
    (h : ((model.resolveStructured name kind location use).value.follow (some model)).structured? =
      some type) : type.kind = kind := by
  simp only [resolveStructured] at h
  split at h
  · rename_i id hid
    split at h
    · rename_i found hfound
      split at h
      · rename_i hkind
        rw [hid] at h
        obtain ⟨element, helement, hstructured⟩ := Option.bind_eq_some_iff.1 hfound
        change (TypeReference.ofElement (model.element? id)).structured? = some type at h
        rw [helement] at h
        cases element with
        | structured node =>
            obtain rfl := Option.some.inj hstructured
            obtain rfl := Option.some.inj h
            exact hkind
        | enum | definition | operation | term | container => contradiction
      · contradiction
    · contradiction
  · contradiction
  · contradiction

/-- A base type is of the kind of the type. -/
theorem HasBase.kind_eq {type base : StructuredType} (h : model.HasBase type base) :
    base.kind = type.kind := by
  obtain ⟨found, hfound, hbase⟩ := Option.bind_eq_some_iff.1 h
  obtain ⟨reference, hreference, rfl⟩ := Option.map_eq_some_iff.1 hfound
  unfold StructuredType.baseReferenceIn at hreference
  split at hreference
  · contradiction
  · obtain rfl := Option.some.inj hreference
    exact kind_of_resolveStructured hbase

/-- All that the walk meets can be reached. -/
theorem reaches_of_mem_climb {unmet : List ElementId} {start : Option StructuredType}
    {type : StructuredType} (h : type ∈ (model.climb unmet start).1) :
    ∃ first ∈ start, Relation.ReflTransGen model.HasBase first type := by
  fun_induction model.climb unmet start with
  | case1 => contradiction
  | case2 unmet first hunmet rest cyclic hrest ih =>
      refine ⟨first, rfl, ?_⟩
      rcases List.mem_cons.1 h with rfl | h
      · exact .refl
      · rw [hrest] at ih
        obtain ⟨base, hbase, hreaches⟩ := ih h
        exact .head hbase hreaches
  | case3 => contradiction

/-- What the walk has met when it ends has its base types among what has been met.  `met` are the
types that were met before it started. -/
theorem climb_closed (hindexed : model.Indexed) {unmet : List ElementId}
    {start : Option StructuredType} {met : List StructuredType}
    (hstart : ∀ type ∈ start, .structured type ∈ model.elements)
    (hmet : ∀ type, .structured type ∈ model.elements → type.id ∈ unmet ∨ type ∈ met)
    (hclosed : ∀ type ∈ met, ∀ base, model.HasBase type base → base ∈ met ∨ start = some base) :
    ∀ type ∈ met ++ (model.climb unmet start).1, ∀ base, model.HasBase type base →
      base ∈ met ++ (model.climb unmet start).1 := by
  fun_induction model.climb unmet start generalizing met with
  | case1 unmet =>
      intro type htype base hbase
      rw [List.append_nil] at htype ⊢
      exact (hclosed type htype base hbase).resolve_right (Option.some_ne_none base ∘ Eq.symm)
  | case2 unmet first hunmet rest cyclic hrest ih =>
      rw [hrest] at ih
      have hfirst : .structured first ∈ model.elements := hstart first rfl
      have hrest := @ih (met ++ [first]) (fun _ hbase => baseStructured?_mem hbase) ?_ ?_
      · rwa [List.append_assoc] at hrest
      · -- The first type is met now, and only that one.
        intro type htype
        rcases hmet type htype with hunmet | hmem
        · by_cases hid : type.id = first.id
          · have heq := hindexed.eq_of_id_eq htype hfirst hid
            right
            rw [Element.structured.inj heq]
            exact List.mem_append_right _ (List.mem_singleton_self _)
          · exact .inl ((List.mem_erase_of_ne hid).2 hunmet)
        · exact .inr (List.mem_append_left _ hmem)
      · intro type htype base hbase
        rcases List.mem_append.1 htype with htype | htype
        · rcases hclosed type htype base hbase with hmem | hfirst
          · exact .inl (List.mem_append_left _ hmem)
          · obtain rfl := Option.some.inj hfirst
            exact .inl (List.mem_append_right _ (List.mem_singleton_self _))
        · obtain rfl := List.mem_singleton.1 htype
          exact .inr hbase
  | case3 unmet first hunmet =>
      intro type htype base hbase
      rw [List.append_nil] at htype ⊢
      rcases hclosed type htype base hbase with hmem | hfirst
      · exact hmem
      · obtain rfl := Option.some.inj hfirst
        exact (hmet first (hstart first rfl)).resolve_left hunmet

/-- A type and its ancestors have their base types among them. -/
theorem ancestors_closed (hindexed : model.Indexed) {type : StructuredType}
    (htype : .structured type ∈ model.elements) :
    ∀ first ∈ type :: model.ancestors type, ∀ base, model.HasBase first base →
      base ∈ type :: model.ancestors type := by
  let climbed := (model.climb (model.others type.id) (model.baseStructured? type)).1
  show ∀ first ∈ [type] ++ climbed, ∀ base, model.HasBase first base → base ∈ [type] ++ climbed
  refine climb_closed hindexed (fun _ hbase => baseStructured?_mem hbase) ?_ ?_
  · intro first hfirst
    by_cases hid : first.id = type.id
    · have heq := hindexed.eq_of_id_eq hfirst htype hid
      exact .inr (List.mem_singleton.2 (Element.structured.inj heq))
    · left
      refine (List.mem_erase_of_ne hid).2 (List.mem_range.2 ?_)
      exact (List.getElem?_eq_some_iff.1 (hindexed.element?_id hfirst)).1
  · intro first hfirst base hbase
    obtain rfl := List.mem_singleton.1 hfirst
    exact .inr hbase

/-- The types that can be reached from a type of the model are that type and its ancestors. -/
theorem mem_ancestors_iff (hindexed : model.Indexed) {type other : StructuredType}
    (htype : .structured type ∈ model.elements) :
    other ∈ type :: model.ancestors type ↔ Relation.ReflTransGen model.HasBase type other := by
  constructor
  · intro h
    rcases List.mem_cons.1 h with rfl | h
    · exact .refl
    · obtain ⟨base, hbase, hreaches⟩ := reaches_of_mem_climb h
      exact .head hbase hreaches
  · intro hreaches
    induction hreaches with
    | refl => exact List.mem_cons_self
    | tail _ hbase ih => exact ancestors_closed hindexed htype _ ih _ hbase

/-- A type inherits from the types that can be reached from it. -/
theorem inherits_iff (hindexed : model.Indexed) {type other : StructuredType}
    (htype : .structured type ∈ model.elements) (hother : .structured other ∈ model.elements) :
    model.inherits type other = true ↔ Relation.ReflTransGen model.HasBase type other := by
  rw [← mem_ancestors_iff hindexed htype, inherits, Bool.or_eq_true, decide_eq_true_eq,
    List.any_eq_true, List.mem_cons]
  constructor
  · rintro (hid | ⟨ancestor, hmem, hid⟩)
    · exact .inl (Element.structured.inj (hindexed.eq_of_id_eq hother htype hid.symm))
    · have heq := hindexed.eq_of_id_eq hother (ancestors_mem hmem) (of_decide_eq_true hid).symm
      rw [Element.structured.inj heq]
      exact .inr hmem
  · rintro (rfl | hmem)
    · exact .inl rfl
    · exact .inr ⟨other, hmem, decide_eq_true rfl⟩

end Model
end ResourcePaths
