import ResourcePaths.Proofs.Model.Ancestors
import ResourcePaths.Proofs.Session.Queries

/-!
# Chains of base types

The chain of a type is the type, its base type, the base type of that one, and so on.  It ends at a
type without a base type, or at a name that does not lead to one, or it runs into a circle and never
ends; the type where it begins need not lie on the circle.  In each case the ancestors of the type
are the other types of the chain in their order, each of them once, and everything that is gathered
from the ancestors follows: the properties of the type, what it inherits from, and the report of a
circle.
-/

namespace ResourcePaths

/-! ### Declared properties -/

namespace StructuredType

theorem declaring_of_mem_declaredProperties {type : StructuredType} {property : Property}
    (h : property ∈ type.declaredProperties) : property.declaring = type.id := by
  rcases List.mem_append.1 h with hmem | hmem
  · obtain ⟨_, -, rfl⟩ := List.mem_map.1 hmem
    rfl
  · obtain ⟨_, -, rfl⟩ := List.mem_map.1 hmem
    rfl

/-- The declared properties of a type are told apart by their sort and their position. -/
theorem nodup_declaredProperties (type : StructuredType) : type.declaredProperties.Nodup := by
  have hnumbered {α : Type} (decls : List α) (make : α × Nat → Property)
      (hmake : Function.Injective make) : (decls.zipIdx.map make).Nodup := by
    have hpositions : (decls.zipIdx.map Prod.snd).Nodup := by
      rw [List.zipIdx_map_snd]
      exact List.nodup_range'
    exact hpositions.of_map.map hmake
  refine List.nodup_append.2 ⟨hnumbered _ _ ?_, hnumbered _ _ ?_, ?_⟩
  · rintro ⟨decl, position⟩ ⟨other, place⟩ h
    obtain ⟨-, rfl, rfl⟩ := StructuralProperty.mk.inj (Property.structural.inj h)
    rfl
  · rintro ⟨decl, position⟩ ⟨other, place⟩ h
    obtain ⟨-, rfl, rfl⟩ := NavigationProperty.mk.inj (Property.navigation.inj h)
    rfl
  · intro property hstructural other hnavigation
    obtain ⟨_, -, rfl⟩ := List.mem_map.1 hstructural
    obtain ⟨_, -, rfl⟩ := List.mem_map.1 hnavigation
    exact Property.noConfusion

end StructuredType

namespace Model

variable {model : Model} {unmet : List ElementId} {start : Option StructuredType}
  {type other : StructuredType}

/-! ### One walk -/

/-- The walk goes from each type to its base type. -/
theorem isChain_climb (h : model.baseStructured? type = start) :
    (type :: (model.climb unmet start).1).IsChain model.HasBase := by
  fun_induction model.climb unmet start generalizing type with
  | case1 => exact .singleton type
  | case2 unmet first hunmet rest cyclic hrest ih =>
      rw [hrest] at ih
      exact List.isChain_cons_cons.2 ⟨h, ih rfl⟩
  | case3 => exact .singleton type

/-- The walk meets only what has not been met, and nothing twice. -/
theorem nodup_climb (hunmet : unmet.Nodup) :
    ((model.climb unmet start).1.map StructuredType.id).Nodup ∧
      ∀ first ∈ (model.climb unmet start).1, first.id ∈ unmet := by
  fun_induction model.climb unmet start with
  | case1 => exact ⟨List.nodup_nil, List.forall_mem_nil _⟩
  | case2 unmet first hfirst rest cyclic hrest ih =>
      rw [hrest] at ih
      obtain ⟨hnodup, hmem⟩ := ih (hunmet.erase first.id)
      constructor
      · -- The type that is met is no longer among those that the walk may still meet.
        refine List.nodup_cons.2 ⟨fun hagain => ?_, hnodup⟩
        obtain ⟨later, hlater, hid⟩ := List.mem_map.1 hagain
        have herased := hmem later hlater
        rw [hid] at herased
        exact hunmet.not_mem_erase herased
      · refine List.forall_mem_cons.2 ⟨hfirst, fun later hlater => ?_⟩
        exact List.mem_of_mem_erase (hmem later hlater)
  | case3 => exact ⟨List.nodup_nil, List.forall_mem_nil _⟩

/-- A walk that does not stop at a type met before ends at a type without a base type. -/
theorem end_of_climb (h : (model.climb unmet start).2 = false) :
    start = none ∨ ∃ last ∈ (model.climb unmet start).1, model.baseStructured? last = none := by
  fun_induction model.climb unmet start with
  | case1 => exact .inl rfl
  | case2 unmet first hunmet rest cyclic hrest ih =>
      rw [hrest] at ih
      right
      rcases ih h with hnone | ⟨last, hlast, hnone⟩
      · exact ⟨first, List.mem_cons_self, hnone⟩
      · exact ⟨last, List.mem_cons_of_mem _ hlast, hnone⟩
  | case3 => contradiction

/-- On a walk that stops at a type met before, each type has a base type. -/
theorem base_of_climb (h : (model.climb unmet start).2 = true) :
    start ≠ none ∧ ∀ first ∈ (model.climb unmet start).1, ∃ base, model.HasBase first base := by
  fun_induction model.climb unmet start with
  | case1 => contradiction
  | case2 unmet first hunmet rest cyclic hrest ih =>
      rw [hrest] at ih
      obtain ⟨hbase, hothers⟩ := ih h
      exact ⟨Option.some_ne_none first,
        List.forall_mem_cons.2 ⟨Option.ne_none_iff_exists'.1 hbase, hothers⟩⟩
  | case3 unmet first hunmet => exact ⟨Option.some_ne_none first, List.forall_mem_nil _⟩

/-! ### Ancestors -/

theorem isChain_ancestors (type : StructuredType) :
    (type :: model.ancestors type).IsChain model.HasBase :=
  isChain_climb rfl

/-- No type comes twice among a type and its ancestors. -/
theorem nodup_ancestors (type : StructuredType) :
    ((type :: model.ancestors type).map StructuredType.id).Nodup := by
  have hothers : (model.others type.id).Nodup := List.nodup_range.erase type.id
  obtain ⟨hnodup, hmem⟩ : ((model.ancestors type).map StructuredType.id).Nodup ∧
      ∀ first ∈ model.ancestors type, first.id ∈ model.others type.id := nodup_climb hothers
  refine List.nodup_cons.2 ⟨fun hagain => ?_, hnodup⟩
  obtain ⟨ancestor, hancestor, hid⟩ := List.mem_map.1 hagain
  have hother := hmem ancestor hancestor
  rw [hid] at hother
  exact List.nodup_range.not_mem_erase hother

/-- There are fewer ancestors than elements, so that the walk is over after so many steps. -/
theorem length_ancestors_lt (hindexed : model.Indexed) (htype : .structured type ∈ model.elements) :
    (model.ancestors type).length < model.elements.length := by
  have hnumbers : (type :: model.ancestors type).map StructuredType.id ⊆
      List.range model.elements.length := by
    intro id hid
    obtain ⟨first, hfirst, rfl⟩ := List.mem_map.1 hid
    have hmem : .structured first ∈ model.elements := by
      rcases List.mem_cons.1 hfirst with rfl | hancestor
      · exact htype
      · exact ancestors_mem hancestor
    have hplace := hindexed.element?_id hmem
    exact List.mem_range.2 (List.getElem?_eq_some_iff.1 hplace).1
  have hlength := (List.subperm_of_subset (nodup_ancestors type) hnumbers).length_le
  rw [List.length_map, List.length_cons, List.length_range] at hlength
  exact hlength

/-- The ancestors of a type are the other types that can be reached from it. -/
theorem mem_ancestors_iff_transGen (hindexed : model.Indexed)
    (htype : .structured type ∈ model.elements) :
    other ∈ model.ancestors type ↔
      other ≠ type ∧ Relation.TransGen model.HasBase type other := by
  have hfresh : type ∉ model.ancestors type := by
    have hids : ((type :: model.ancestors type).map StructuredType.id).Nodup := nodup_ancestors type
    exact fun hmem => (List.nodup_cons.1 hids).1 (List.mem_map_of_mem hmem)
  constructor
  · intro hmem
    have hne : other ≠ type := fun heq => hfresh (heq ▸ hmem)
    have hreaches := (mem_ancestors_iff hindexed htype).1 (List.mem_cons_of_mem type hmem)
    rcases Relation.reflTransGen_iff_eq_or_transGen.1 hreaches with heq | hsteps
    · exact absurd heq hne
    · exact ⟨hne, hsteps⟩
  · rintro ⟨hne, hsteps⟩
    have hmem := (mem_ancestors_iff hindexed htype).2 hsteps.to_reflTransGen
    exact (List.mem_cons.1 hmem).resolve_left hne

/-- The properties of a type are those that the types of its chain declare, the farthest first. -/
theorem properties_eq (type : StructuredType) :
    model.properties type =
      (type :: model.ancestors type).reverse.flatMap StructuredType.declaredProperties := by
  rw [List.reverse_cons, List.flatMap_append, List.flatMap_singleton]
  rfl

/-- Nothing is gathered twice. -/
theorem nodup_properties (type : StructuredType) : (model.properties type).Nodup := by
  rw [properties_eq, List.nodup_flatMap]
  refine ⟨fun first _ => first.nodup_declaredProperties, List.pairwise_reverse.2 ?_⟩
  have hids : (type :: model.ancestors type).Pairwise fun first second => first.id ≠ second.id :=
    List.pairwise_map.1 (nodup_ancestors type)
  refine hids.imp fun {first second} hne property hsecond hfirst => hne ?_
  rw [← StructuredType.declaring_of_mem_declaredProperties hfirst,
    StructuredType.declaring_of_mem_declaredProperties hsecond]

/-! ### Chains without an end -/

/-- The chain of a type goes on for ever. -/
def IsEndless (model : Model) (type : StructuredType) : Prop :=
  ∃ way : Nat → StructuredType, way 0 = type ∧ ∀ steps, model.HasBase (way steps) (way (steps + 1))

theorem IsEndless.hasBase (h : model.IsEndless type) : ∃ base, model.HasBase type base := by
  obtain ⟨way, rfl, hway⟩ := h
  exact ⟨way 1, hway 0⟩

theorem IsEndless.of_hasBase (h : model.IsEndless type) (hbase : model.HasBase type other) :
    model.IsEndless other := by
  obtain ⟨way, rfl, hway⟩ := h
  exact ⟨fun steps => way (steps + 1), (hway 0).unique hbase, fun steps => hway (steps + 1)⟩

/-- A chain without an end runs through types that all have a base type. -/
theorem IsEndless.of_reaches (h : model.IsEndless type)
    (hreaches : Relation.ReflTransGen model.HasBase type other) : model.IsEndless other := by
  induction hreaches with
  | refl => exact h
  | tail _ hbase ih => exact ih.of_hasBase hbase

/-- A chain goes on for ever where all types that can be reached have a base type. -/
theorem isEndless_of_bases
    (h : ∀ other, Relation.ReflTransGen model.HasBase type other →
      ∃ base, model.HasBase other base) : model.IsEndless type := by
  let next (other : StructuredType) : StructuredType := (model.baseStructured? other).getD other
  have hnext : ∀ other, Relation.ReflTransGen model.HasBase type other →
      model.HasBase other (next other) := by
    intro other hreaches
    obtain ⟨base, hbase⟩ := h other hreaches
    have heq : next other = base := by
      show (model.baseStructured? other).getD other = base
      rw [show model.baseStructured? other = some base from hbase, Option.getD_some]
    rwa [heq]
  have hway : ∀ steps, Relation.ReflTransGen model.HasBase type (next^[steps] type) := by
    intro steps
    induction steps with
    | zero => exact .refl
    | succ steps ih =>
        rw [Function.iterate_succ_apply']
        exact ih.tail (hnext _ ih)
  refine ⟨fun steps => next^[steps] type, rfl, fun steps => ?_⟩
  show model.HasBase (next^[steps] type) (next^[steps + 1] type)
  rw [Function.iterate_succ_apply']
  exact hnext _ (hway steps)

/-- The walk stops at a type that it has met before exactly if the chain has no end. -/
theorem isCyclic_iff (hindexed : model.Indexed) (htype : .structured type ∈ model.elements) :
    model.isCyclic type = true ↔ model.IsEndless type := by
  constructor
  · intro hcyclic
    obtain ⟨hbase, hothers⟩ := base_of_climb hcyclic
    refine isEndless_of_bases fun other hreaches => ?_
    rcases List.mem_cons.1 ((mem_ancestors_iff hindexed htype).2 hreaches) with rfl | hmem
    · exact Option.ne_none_iff_exists'.1 hbase
    · exact hothers other hmem
  · intro hendless
    by_contra hcyclic
    -- Otherwise a type that can be reached would have no base type.
    obtain ⟨last, hlast, hnone⟩ : ∃ last ∈ type :: model.ancestors type,
        model.baseStructured? last = none := by
      rcases end_of_climb (Bool.eq_false_iff.2 hcyclic) with hnone | ⟨last, hlast, hnone⟩
      · exact ⟨type, List.mem_cons_self, hnone⟩
      · exact ⟨last, List.mem_cons_of_mem _ hlast, hnone⟩
    have hreaches := (mem_ancestors_iff hindexed htype).1 hlast
    obtain ⟨base, hbase⟩ := (hendless.of_reaches hreaches).hasBase
    rw [HasBase, hnone] at hbase
    contradiction

/-! ### The report of a circle -/

theorem code_of_mem_duplicateErrors {element : Element} {location : Declared.Location}
    {error : ModelError} (h : error ∈ model.duplicateErrors element location) :
    error.code = .duplicateElementName := by
  rw [duplicateErrors] at h
  split at h
  · obtain rfl := List.mem_singleton.1 h
    rfl
  · contradiction

theorem code_of_mem_keyErrors {properties : List Property} {names : Option (List String)}
    {error : ModelError} (h : error ∈ type.keyErrors properties names) :
    error.code = .keyMissing ∨ error.code = .keyPropertyNotFound := by
  cases names with
  | none =>
      rw [StructuredType.keyErrors] at h
      split at h
      · contradiction
      · obtain rfl := List.mem_singleton.1 h
        exact .inl rfl
  | some names =>
      obtain ⟨name, -, rfl⟩ := List.mem_map.1 h
      exact .inr rfl

/-- A circle of base types is reported exactly if the walk meets a type again. -/
theorem cyclicBaseType_reported_iff :
    (∃ error ∈ model.structuredErrors type, error.code = .cyclicBaseType) ↔
      model.isCyclic type = true := by
  constructor
  · rintro ⟨error, hmem, hcode⟩
    -- No other part of the report has that code.
    have hreference {errors : List ModelError} (h : ReferenceErrors errors) : error ∉ errors := by
      intro hmem
      have hof := h error hmem
      rw [hcode] at hof
      contradiction
    simp only [structuredErrors, StructuredType.gatherErrors, List.mem_append] at hmem
    rcases hmem with ((((hbase | hduplicate) | hcyclic) | hrepeated) | hdeclared) | hkey
    · exact absurd hbase (hreference (referenceErrors_base type))
    · have := code_of_mem_duplicateErrors hduplicate
      rw [hcode] at this
      contradiction
    · by_contra hnot
      rw [if_neg hnot] at hcyclic
      contradiction
    · obtain ⟨property, -, rfl⟩ := List.mem_map.1 hrepeated
      contradiction
    · obtain ⟨property, -, hproperty⟩ := List.mem_flatMap.1 hdeclared
      exact absurd hproperty (hreference (referenceErrors_property property))
    · split at hkey
      · have := code_of_mem_keyErrors hkey
        rw [hcode] at this
        rcases this with hmissing | hfound <;> contradiction
      · contradiction
  · intro hcyclic
    refine ⟨⟨type.decl.location, .cyclicBase type.fullName⟩, ?_, rfl⟩
    simp only [structuredErrors, StructuredType.gatherErrors, hcyclic, if_true, List.mem_append]
    exact .inl (.inl (.inl (.inr (List.mem_singleton_self _))))

/-! ### Any session -/

/-- Whatever has been asked before, the ancestors of a type are the other types of its chain, each
at its place and none twice, and fewer than there are elements; its properties are those that the
types of the chain declare, the farthest first; it inherits from what can be reached from it; and
its problems tell of a circle exactly if its chain goes on for ever. -/
theorem ancestors_exact (description : Declared.Description) (asked : List Query)
    (type : StructuredType) (htype : .structured type ∈ (ofDescription description).elements) :
    let model := ofDescription description
    let session := (Session.start model).after asked
    let ancestors := session.answer (.ancestors type)
    let properties := session.answer (.properties type)
    (ancestors.length < model.elements.length ∧ (type :: ancestors).Nodup ∧
      (type :: ancestors).IsChain model.HasBase ∧
      ∀ other, other ∈ ancestors ↔ other ≠ type ∧ Relation.TransGen model.HasBase type other) ∧
    (properties = (type :: ancestors).reverse.flatMap StructuredType.declaredProperties ∧
      properties.Nodup) ∧
    (∀ other, .structured other ∈ model.elements →
      (session.answer (.inherits type other) = true ↔
        Relation.ReflTransGen model.HasBase type other)) ∧
    ((∃ error ∈ session.answer (.errorsOf (.element (.structured type))),
        error.code = .cyclicBaseType) ↔ model.IsEndless type) := by
  intro model session ancestors properties
  have hindexed : model.Indexed := indexed_ofDescription description
  have hlive : Session.Live model session := Session.live_after model asked
  have hancestors : ancestors = model.ancestors type := (Session.gives_ancestors type _ hlive).1
  have hproperties : properties = model.properties type := (Session.gives_properties type _ hlive).1
  have herrors : session.answer (.errorsOf (.element (.structured type))) =
      model.structuredErrors type := (Session.gives_structuredErrors type _ hlive).1
  rw [hancestors, hproperties, herrors]
  refine ⟨⟨length_ancestors_lt hindexed htype, (nodup_ancestors type).of_map,
    isChain_ancestors type, fun other => mem_ancestors_iff_transGen hindexed htype⟩,
    ⟨properties_eq type, nodup_properties type⟩, fun other hother => ?_, ?_⟩
  · have hinherits : session.answer (.inherits type other) = model.inherits type other :=
      (Session.gives_inherits type other _ hlive).1
    rw [hinherits]
    exact inherits_iff hindexed htype hother
  · rw [cyclicBaseType_reported_iff]
    exact isCyclic_iff hindexed htype

/-- Two types that are each other's base type, and one with a mark that has the first of them as its
base type. -/
def whirl : Declared.Description where
  schemas := [{
    namespaceName := "N"
    entityTypes := [
      { name := "Left", baseType := some "N.Right" },
      { name := "Right", baseType := some "N.Left" },
      { name := "Outer", baseType := some "N.Left"
        properties := [{ name := "Mark", typeName := "Edm.Int32" }] }] }]

/-- The chain of the outer type runs into the circle and never comes back to the type. -/
theorem ancestors_exact_outer :
    let model := ofDescription whirl
    let left : StructuredType :=
      ⟨0, "N", .entity, { name := "Left", baseType := some "N.Right" }⟩
    let right : StructuredType :=
      ⟨1, "N", .entity, { name := "Right", baseType := some "N.Left" }⟩
    let outer : StructuredType :=
      ⟨2, "N", .entity, { name := "Outer", baseType := some "N.Left"
                          properties := [{ name := "Mark", typeName := "Edm.Int32" }] }⟩
    let session := (Session.start model).after [.validation]
    .structured outer ∈ model.elements ∧ session.answer (.ancestors outer) = [left, right] ∧
      Relation.TransGen model.HasBase outer right ∧ model.IsEndless outer ∧
      session.answer (.inherits outer right) = true ∧
      session.answer (.inherits right outer) = false := by
  intro model left right outer session
  have houter : .structured outer ∈ model.elements := by decide +kernel
  have hancestors : session.answer (.ancestors outer) = [left, right] := by decide +kernel
  obtain ⟨⟨-, -, -, hmem⟩, -, hinherits, hendless⟩ :=
    ancestors_exact whirl [.validation] outer houter
  have hright : Relation.TransGen model.HasBase outer right := by
    refine ((hmem right).1 ?_).2
    show right ∈ session.answer (.ancestors outer)
    rw [hancestors]
    exact List.mem_cons_of_mem _ (List.mem_singleton_self _)
  refine ⟨houter, hancestors, hright, hendless.1 ?_, ?_, by decide +kernel⟩
  · decide +kernel
  · exact (hinherits right (by decide +kernel)).2 hright.to_reflTransGen

end Model
end ResourcePaths
