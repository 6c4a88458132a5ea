import Mathlib.Data.List.Sort
import ResourcePaths.Model.Basic

/-!
# Looking up names

A model keeps its elements at the places of their numbers, and an index of their names.  Looking a
name up in the index finds what going through all elements would find, in the order of the
declarations.
-/

namespace ResourcePaths

/-! ### The index -/

namespace NameIndex

theorem find?_insert (index : NameIndex) (name other : String) (id : ElementId) :
    (insert name id index).find? other =
      if other = name then some ((index.find? name).getD [] ++ [id]) else index.find? other := by
  induction index with
  | nil =>
      by_cases hother : other = name
      · subst hother
        simp [insert, find?]
      · simp [insert, find?, hother]
  | cons group rest ih =>
      obtain ⟨found, ids⟩ := group
      simp only [find?] at ih ⊢
      rw [insert]
      by_cases hfound : found = name
      · subst hfound
        rw [if_pos rfl]
        by_cases hother : other = found
        · subst hother
          simp
        · have hbeq : (other == found) = false := by simpa using hother
          simp [List.lookup_cons, hother, hbeq]
      · rw [if_neg hfound]
        by_cases hother : other = found
        · subst hother
          simp [hfound]
        · have hname : (name == found) = false := by simpa using Ne.symm hfound
          have hbeq : (other == found) = false := by simpa using hother
          simp only [List.lookup_cons, hname, hbeq]
          exact ih

theorem find?_foldl (elements : List Element) (index : NameIndex) (name : String) :
    (elements.foldl (fun index element => index.insert element.fullName element.id) index).find?
        name =
      match (elements.filter fun element => element.fullName = name).map Element.id with
      | [] => index.find? name
      | ids => some ((index.find? name).getD [] ++ ids) := by
  induction elements generalizing index with
  | nil => rfl
  | cons element rest ih =>
      rw [List.foldl_cons, ih, find?_insert]
      by_cases hname : element.fullName = name
      · subst hname
        simp only [if_true, List.filter_cons, decide_true, List.map_cons]
        split <;> simp_all
      · rw [if_neg (Ne.symm hname), List.filter_cons_of_neg (by simpa using hname)]

/-- The numbers of the elements of a name, in their order. -/
theorem find?_ofElements (elements : List Element) (name : String) :
    (ofElements elements).find? name =
      match (elements.filter fun element => element.fullName = name).map Element.id with
      | [] => none
      | ids => some ids := by
  rw [ofElements, find?_foldl]
  split <;> rfl

/-- The entries of the index, each with its name. -/
def entries (index : NameIndex) : List (String × ElementId) :=
  index.flatMap fun group => group.2.map fun id => (group.1, id)

theorem entries_insert (index : NameIndex) (name : String) (id : ElementId) :
    (entries (insert name id index)).Perm ((name, id) :: entries index) := by
  induction index with
  | nil => exact .refl _
  | cons group rest ih =>
      obtain ⟨found, ids⟩ := group
      rw [insert]
      split
      · rename_i hfound
        subst hfound
        simp only [entries, List.flatMap_cons, List.map_append, List.map_cons, List.map_nil,
          List.append_assoc, List.singleton_append]
        exact List.perm_middle
      · have := ih.append_left (ids.map fun id => (found, id))
        exact this.trans List.perm_middle

theorem entries_ofElements (elements : List Element) :
    (entries (ofElements elements)).Perm
      (elements.map fun element => (element.fullName, element.id)) := by
  -- The induction needs an index that is not empty, as the fold goes on from one.
  have hfold (index : NameIndex) :
      (entries (elements.foldl (fun index element =>
          index.insert element.fullName element.id) index)).Perm
        (elements.map (fun element => (element.fullName, element.id)) ++ entries index) := by
    induction elements generalizing index with
    | nil => exact .refl _
    | cons element rest ih =>
        have := (ih _).trans ((entries_insert index element.fullName element.id).append_left _)
        exact this.trans List.perm_middle
  have := hfold []
  rwa [show entries [] = [] from rfl, List.append_nil] at this

/-- The numbers of the elements whose name is alike are put in order. -/
theorem pairwise_alike (index : NameIndex) (name : String) :
    (index.alike name).Pairwise (· ≤ ·) := by
  refine (List.pairwise_mergeSort ?_ ?_ _).imp (by simp)
  · intro a b c hab hbc
    simp only [decide_eq_true_eq] at hab hbc ⊢
    exact Nat.le_trans hab hbc
  · intro a b
    simpa using Nat.le_total a b

/-- The numbers of the elements whose name is alike are those of all entries with such a name. -/
theorem alike_perm (index : NameIndex) (name : String) :
    (index.alike name).Perm
      (((entries index).filter fun entry => Text.alike entry.1 name).map (·.2)) := by
  have hentries : (index.filter fun group => Text.alike group.1 name).flatMap (·.2) =
      ((entries index).filter fun entry => Text.alike entry.1 name).map (·.2) := by
    rw [entries, List.filter_flatMap, List.map_flatMap]
    induction index with
    | nil => rfl
    | cons group rest ih =>
        rw [List.filter_cons, List.flatMap_cons, ← ih]
        cases halike : Text.alike group.1 name <;> simp [halike, List.filter_map, Function.comp_def]
  rw [← hentries]
  exact List.mergeSort_perm ..

/-- The numbers of the elements whose name is alike, in rising order. -/
theorem alike_ofElements {elements : List Element} (name : String)
    (hrising : (elements.map Element.id).Pairwise (· ≤ ·)) :
    (ofElements elements).alike name =
      (elements.filter fun element => Text.alike element.fullName name).map Element.id := by
  have hperm := ((entries_ofElements elements).filter fun entry =>
    Text.alike entry.1 name).map (·.2)
  rw [List.filter_map, List.map_map] at hperm
  have hsorted : ((elements.filter fun element => Text.alike element.fullName name).map
      Element.id).Pairwise (· ≤ ·) :=
    hrising.sublist (List.filter_sublist.map Element.id)
  -- Both lists are sorted and hold the same numbers, so they are one list.
  exact ((alike_perm _ name).trans hperm).eq_of_pairwise (fun a b _ _ => Nat.le_antisymm)
    (pairwise_alike _ name) hsorted

end NameIndex

/-! ### The model -/

namespace Model

/-- Each element has the number of its place, and the index is that of the elements. -/
structure Indexed (model : Model) : Prop where
  numbered : ∀ id element, model.element? id = some element → element.id = id
  index_eq : model.index = .ofElements model.elements

theorem id_of_mem_schema {schema : Declared.Schema} {make : ElementId → Element}
    (h : make ∈ schema.elements) (id : ElementId) : (make id).id = id := by
  simp only [Declared.Schema.elements, List.mem_append, List.mem_map] at h
  rcases h with ((((((h | h) | h) | h) | h) | h) | h) | h <;> obtain ⟨decl, -, rfl⟩ := h <;> rfl

theorem isType_of_type? {element : Element} {type : ModelType} (h : element.type? = some type) :
    element.kind.isType = true ∧ element.fullName = type.fullName := by
  cases element with
  | structured node =>
      obtain rfl := Option.some.inj h
      refine ⟨?_, rfl⟩
      show node.kind.elementKind.isType = true
      cases node.kind <;> rfl
  | enum | definition =>
      obtain rfl := Option.some.inj h
      exact ⟨rfl, rfl⟩
  | operation | term | container => contradiction

theorem isOperation_operation (operation : Operation) :
    (Element.operation operation).kind.isOperation = true := by
  show operation.kind.elementKind.isOperation = true
  cases operation.kind <;> rfl

theorem mem_filterMap_operation? {elements : List Element} {operation : Operation} :
    operation ∈ elements.filterMap Element.operation? ↔ .operation operation ∈ elements := by
  rw [List.mem_filterMap]
  constructor
  · rintro ⟨element, hmem, helement⟩
    cases element with
    | operation node =>
        obtain rfl := Option.some.inj helement
        exact hmem
    | structured | enum | definition | term | container => contradiction
  · intro hmem
    exact ⟨_, hmem, rfl⟩

/-- Building a model numbers the elements and indexes them. -/
theorem indexed_ofDescription (description : Declared.Description) :
    (ofDescription description).Indexed := by
  refine ⟨fun id element h => ?_, rfl⟩
  rw [element?, ofDescription] at h
  simp only [List.getElem?_map, List.getElem?_zipIdx, Option.map_map, Nat.zero_add] at h
  obtain ⟨make, hmake, rfl⟩ := Option.map_eq_some_iff.1 h
  obtain ⟨schema, -, hmem⟩ := List.mem_flatMap.1 (List.mem_of_getElem? hmake)
  exact id_of_mem_schema hmem id

variable {model : Model}

theorem Indexed.element?_id (h : model.Indexed) {element : Element} (hmem : element ∈ model.elements) :
    model.element? element.id = some element := by
  obtain ⟨id, hid⟩ := List.mem_iff_getElem?.1 hmem
  rw [h.numbered id element hid]
  exact hid

theorem Indexed.structured?_id (h : model.Indexed) {type : StructuredType}
    (hmem : .structured type ∈ model.elements) : model.structured? type.id = some type :=
  Option.bind_eq_some_iff.2 ⟨_, h.element?_id hmem, rfl⟩

theorem Indexed.container?_id (h : model.Indexed) {container : Container}
    (hmem : .container container ∈ model.elements) :
    model.container? container.id = some container :=
  Option.bind_eq_some_iff.2 ⟨_, h.element?_id hmem, rfl⟩

theorem Indexed.eq_of_id_eq (h : model.Indexed) {element other : Element}
    (hother : other ∈ model.elements) (hmem : element ∈ model.elements)
    (hid : other.id = element.id) : other = element := by
  have hfound := h.element?_id hother
  rw [hid, h.element?_id hmem] at hfound
  exact (Option.some.inj hfound).symm

theorem Indexed.element?_of_mem_find (h : model.Indexed) {name : String} {ignoreCase : Bool}
    {element : Element} (hmem : element ∈ model.find name ignoreCase) :
    model.element? element.id = some element := by
  obtain ⟨id, -, hid⟩ := List.mem_filterMap.1 hmem
  rw [h.numbered id element hid]
  exact hid

theorem Indexed.map_id (h : model.Indexed) :
    model.elements.map Element.id = List.range model.elements.length := by
  refine List.ext_getElem (by simp) fun id hleft hright => ?_
  rw [List.length_map] at hleft
  rw [List.getElem_map, List.getElem_range]
  exact h.numbered id _ (List.getElem?_eq_getElem hleft)

theorem Indexed.nodup_elements (h : model.Indexed) : model.elements.Nodup := by
  apply List.Nodup.of_map Element.id
  rw [h.map_id]
  exact List.nodup_range

/-- The elements of a qualified name, or, where there is none and case does not matter, those whose
name is alike. -/
def matching (model : Model) (full : String) (ignoreCase : Bool) : List Element :=
  match model.elements.filter fun element => element.fullName = full with
  | [] =>
    if ignoreCase then model.elements.filter fun element => Text.alike element.fullName full else []
  | exact => exact

theorem matching_exactly (model : Model) (full : String) :
    model.matching full false = model.elements.filter fun element => element.fullName = full := by
  unfold matching
  cases model.elements.filter fun element => element.fullName = full <;> rfl

theorem matching_ignoringCase (model : Model) (full : String) :
    model.matching full true =
      if (model.elements.filter fun element => element.fullName = full) = [] then
        model.elements.filter fun element => Text.alike element.fullName full
      else model.elements.filter fun element => element.fullName = full := by
  unfold matching
  cases model.elements.filter fun element => element.fullName = full <;> rfl

theorem Indexed.filterMap_map_id (h : model.Indexed) (kind : Element → Bool) :
    ((model.elements.filter kind).map Element.id).filterMap model.element? =
      model.elements.filter kind := by
  rw [List.filterMap_map]
  have hsome : ∀ element ∈ model.elements.filter kind,
      (model.element? ∘ Element.id) element = some element :=
    fun element hmem => h.element?_id (List.mem_of_mem_filter hmem)
  rw [List.filterMap_congr hsome, List.filterMap_some]

/-- The index holds the numbers of the elements of each name. -/
theorem Indexed.find?_index (h : model.Indexed) (name : String) :
    (model.index.find? name).getD [] =
      (model.elements.filter fun element => element.fullName = name).map Element.id := by
  rw [h.index_eq, NameIndex.find?_ofElements]
  generalize (model.elements.filter _).map Element.id = ids
  cases ids <;> rfl

/-- The numbers of the elements of a name, in their order. -/
theorem Indexed.idsOf_eq (h : model.Indexed) (name : String) :
    model.idsOf name false =
      (model.elements.filter fun element =>
        element.fullName = model.normalize (Text.trimmed name)).map Element.id := by
  simp only [idsOf, h.index_eq, NameIndex.find?_ofElements]
  generalize (model.elements.filter _).map Element.id = ids
  cases ids <;> rfl

/-- Looking a name up is going through all elements. -/
theorem Indexed.find_eq_matching (h : model.Indexed) (name : String) (ignoreCase : Bool) :
    model.find name ignoreCase =
      model.matching (model.normalize (Text.trimmed name)) ignoreCase := by
  -- Going through the elements meets their numbers in rising order, as the index gives them.
  have hrising : (model.elements.map Element.id).Pairwise (· ≤ ·) := by
    rw [h.map_id]
    exact List.pairwise_le_range
  simp only [find, idsOf, matching]
  generalize model.normalize (Text.trimmed name) = full
  rw [h.index_eq, NameIndex.find?_ofElements, NameIndex.alike_ofElements full hrising]
  cases hexact : model.elements.filter fun element => element.fullName = full with
  | nil =>
      cases ignoreCase with
      | true => exact h.filterMap_map_id _
      | false => rfl
  | cons first others =>
      have hall := h.filterMap_map_id fun element => element.fullName = full
      rw [hexact] at hall
      exact hall

end Model
end ResourcePaths
