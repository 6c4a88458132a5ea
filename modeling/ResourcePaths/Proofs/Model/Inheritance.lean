import ResourcePaths.Proofs.Model.Members
import ResourcePaths.Proofs.Model.Resolution

/-!
# Base types

The walk along base types stays among the types of the model, and so do the properties that are
gathered on the way.
-/

namespace ResourcePaths
namespace Model

variable {model : Model}

theorem structured_mem_of_within {type : ModelType} {structured : StructuredType}
    (hwithin : type.Within model) (h : type.structured? = some structured) :
    .structured structured ∈ model.elements := by
  cases type with
  | structured found =>
      obtain rfl := Option.some.inj h
      exact hwithin
  | primitive | enum | definition | collection | untyped | bad => contradiction

theorem baseStructured?_mem {type base : StructuredType}
    (h : model.baseStructured? type = some base) : .structured base ∈ model.elements := by
  obtain ⟨found, hfound, hbase⟩ := Option.bind_eq_some_iff.1 h
  obtain ⟨reference, -, rfl⟩ := Option.map_eq_some_iff.1 hfound
  exact structured_mem_of_within (TypeReference.follow_within reference) hbase

theorem climb_mem {unmet : List ElementId} {start : Option StructuredType}
    (hstart : ∀ type ∈ start, .structured type ∈ model.elements) :
    ∀ type ∈ (model.climb unmet start).1, .structured type ∈ model.elements := by
  fun_induction model.climb unmet start with
  | case1 => simp
  | case2 unmet type hunmet rest cyclic hrest ih =>
      rw [hrest] at ih
      -- The walk goes on from the base type, which is a type of the model again.
      refine List.forall_mem_cons.2 ⟨hstart type rfl, ih fun base hbase => ?_⟩
      exact baseStructured?_mem hbase
  | case3 => simp

/-- The base types of a type are types of the model. -/
theorem ancestors_mem {type ancestor : StructuredType} (h : ancestor ∈ model.ancestors type) :
    .structured ancestor ∈ model.elements :=
  climb_mem (fun _ hbase => baseStructured?_mem hbase) ancestor h

/-- Every property of a type is declared by a type of the model. -/
theorem declared_of_mem_properties {type : StructuredType} {property : Property}
    (htype : .structured type ∈ model.elements) (h : property ∈ model.properties type) :
    ∃ declaring, .structured declaring ∈ model.elements ∧
      property ∈ declaring.declaredProperties := by
  rcases List.mem_append.1 h with hinherited | hown
  · obtain ⟨ancestor, hancestor, hmem⟩ := List.mem_flatMap.1 hinherited
    exact ⟨ancestor, ancestors_mem (List.mem_reverse.1 hancestor), hmem⟩
  · exact ⟨type, htype, hown⟩

/-- Key properties are properties of the type. -/
theorem mem_properties_of_mem_key {type : StructuredType} {property : StructuralProperty}
    (h : property ∈ model.key type) : .structural property ∈ model.properties type := by
  obtain ⟨name, -, hname⟩ := List.mem_filterMap.1 h
  obtain ⟨found, hfound, hproperty⟩ := Option.bind_eq_some_iff.1 hname
  cases found with
  | structural node =>
      obtain rfl := Option.some.inj hproperty
      exact Property.mem_of_find? hfound
  | navigation => contradiction

end Model
end ResourcePaths
