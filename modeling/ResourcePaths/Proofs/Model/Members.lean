import Mathlib.Data.List.Basic
import ResourcePaths.Model.Operation
import ResourcePaths.Proofs.Text.Words

/-!
# Members by name

Properties, sources and imports are found by their names, an exact match before all others.  What a
name leads to has a name of its own, which may differ in case; looked for under that name it is
found again, because whatever has that very name would have been a match before, too.
-/

namespace ResourcePaths
namespace Text

/-- Whether a name matches a text: exactly, or up to case where case does not matter. -/
def Matches (ignoreCase : Bool) (name text : String) : Prop :=
  name = text ∨ ignoreCase = true ∧ alike name text = true

theorem Matches.trans {ignoreCase : Bool} {name middle text : String}
    (h : Matches ignoreCase name middle) (h' : Matches ignoreCase middle text) :
    Matches ignoreCase name text := by
  rcases h with rfl | ⟨hcase, halike⟩
  · exact h'
  · rcases h' with rfl | ⟨-, halike'⟩
    · exact .inr ⟨hcase, halike⟩
    · exact .inr ⟨hcase, alike_trans halike halike'⟩

/-- A name with a dot matches none without. -/
theorem Matches.mentions_dot {ignoreCase : Bool} {name text : String}
    (h : Matches ignoreCase name text) : mentions name '.' = mentions text '.' := by
  rcases h with rfl | ⟨-, halike⟩
  · rfl
  · exact mentions_dot_of_alike halike

end Text

open Text (Matches)

/-! ### The first of a name -/

/-- The first item of a kind is the first of a narrower kind that it belongs to. -/
theorem find?_narrow {α : Type} {wide narrow : α → Bool} {items : List α} {item : α}
    (h : items.find? wide = some item) (hitem : narrow item = true)
    (himp : ∀ other, narrow other = true → wide other = true) :
    items.find? narrow = some item := by
  induction items with
  | nil => contradiction
  | cons first rest ih =>
      cases hwide : wide first with
      | true =>
          rw [List.find?_cons_of_pos hwide] at h
          obtain rfl := Option.some.inj h
          exact List.find?_cons_of_pos hitem
      | false =>
          rw [List.find?_cons_of_neg (by simp [hwide])] at h
          have hnarrow : ¬ narrow first = true := fun hfirst => by
            rw [himp first hfirst] at hwide
            contradiction
          rw [List.find?_cons_of_neg hnarrow]
          exact ih h

section Named

variable {α : Type} {nameOf : α → String} {items : List α} {name : String} {ignoreCase : Bool}
  {item : α}

theorem findNamed?_eq_none_iff :
    findNamed? nameOf items name ignoreCase = none ↔
      ∀ item ∈ items, ¬ Matches ignoreCase (nameOf item) name := by
  unfold findNamed?
  cases ignoreCase with
  | true =>
      simp only [if_true, Option.or_eq_none_iff, List.find?_eq_none, Matches, true_and, not_or,
        decide_eq_true_eq]
      exact ⟨fun h item hmem => ⟨h.1 item hmem, h.2 item hmem⟩,
        fun h => ⟨fun item hmem => (h item hmem).1, fun item hmem => (h item hmem).2⟩⟩
  | false =>
      simp [List.find?_eq_none, Matches]

theorem findNamed?_eq_some_iff :
    findNamed? nameOf items name ignoreCase = some item ↔
      (items.find? fun other => nameOf other = name) = some item ∨
        (items.find? fun other => nameOf other = name) = none ∧ ignoreCase = true ∧
          (items.find? fun other => Text.alike (nameOf other) name) = some item := by
  unfold findNamed?
  cases ignoreCase with
  | true => simp only [if_true, Option.or_eq_some_iff, true_and]
  | false => simp

theorem mem_of_findNamed? (h : findNamed? nameOf items name ignoreCase = some item) :
    item ∈ items ∧ Matches ignoreCase (nameOf item) name := by
  rcases findNamed?_eq_some_iff.1 h with hexact | ⟨-, hcase, halike⟩
  · have := List.find?_some (p := fun other => nameOf other = name) hexact
    exact ⟨List.mem_of_find?_eq_some hexact, .inl (of_decide_eq_true this)⟩
  · have := List.find?_some (p := fun other => Text.alike (nameOf other) name) halike
    exact ⟨List.mem_of_find?_eq_some halike, .inr ⟨hcase, this⟩⟩

/-- What is found is found under its own name. -/
theorem findNamed?_own (h : findNamed? nameOf items name ignoreCase = some item) :
    findNamed? nameOf items (nameOf item) ignoreCase = some item := by
  -- Whatever has the very name of the item matched before, so that the item is still the first.
  refine findNamed?_eq_some_iff.2 (.inl ?_)
  rcases findNamed?_eq_some_iff.1 h with hexact | ⟨-, -, halike⟩
  · refine find?_narrow hexact (decide_eq_true rfl) fun other hother => ?_
    have := List.find?_some (p := fun other => nameOf other = name) hexact
    rw [of_decide_eq_true hother]
    exact this
  · refine find?_narrow halike (decide_eq_true rfl) fun other hother => ?_
    have := List.find?_some (p := fun other => Text.alike (nameOf other) name) halike
    rw [of_decide_eq_true hother]
    exact this

/-- The first item is found under its own name. -/
theorem findNamed?_head (first : α) (rest : List α) :
    findNamed? nameOf (first :: rest) (nameOf first) ignoreCase = some first :=
  findNamed?_eq_some_iff.2 (.inl (List.find?_cons_of_pos (decide_eq_true rfl)))

end Named

theorem Property.find?_eq_findNamed? (properties : List Property) (name : String)
    (ignoreCase : Bool) :
    Property.find? properties name ignoreCase =
      findNamed? Property.name properties.reverse name ignoreCase := rfl

/-- A property that is found is one of those it is looked for among. -/
theorem Property.mem_of_find? {properties : List Property} {name : String} {ignoreCase : Bool}
    {property : Property} (h : find? properties name ignoreCase = some property) :
    property ∈ properties := by
  rw [find?_eq_findNamed?] at h
  exact List.mem_reverse.1 (mem_of_findNamed? h).1

/-! ### Members of a container -/

namespace Container

variable {container : Container} {name : String} {ignoreCase : Bool} {source : DeclaredSource}
  {imp : OperationImport}

theorem kind_of_mem_singletons (h : source ∈ container.singletons) :
    source.kind = .singleton := by
  obtain ⟨_, -, rfl⟩ := List.mem_map.1 h
  rfl

theorem findSource?_eq_none_iff :
    container.findSource? name ignoreCase = none ↔
      ∀ source ∈ container.entitySets ++ container.singletons,
        ¬ Matches ignoreCase source.name name := by
  rw [findSource?, Option.or_eq_none_iff, findEntitySet?, findSingleton?, findNamed?_eq_none_iff,
    findNamed?_eq_none_iff, List.forall_mem_append]

theorem mem_of_findSource? (h : container.findSource? name ignoreCase = some source) :
    source ∈ container.entitySets ++ container.singletons ∧
      Matches ignoreCase source.name name := by
  rcases Option.or_eq_some_iff.1 h with hset | ⟨-, hsingleton⟩
  · obtain ⟨hmem, hmatches⟩ := mem_of_findNamed? hset
    exact ⟨List.mem_append_left _ hmem, hmatches⟩
  · obtain ⟨hmem, hmatches⟩ := mem_of_findNamed? hsingleton
    exact ⟨List.mem_append_right _ hmem, hmatches⟩

/-- A source that is found is found under its own name. -/
theorem findSource?_own (h : container.findSource? name ignoreCase = some source) :
    container.findSource? source.name ignoreCase = some source := by
  refine Option.or_eq_some_iff.2 ?_
  rcases Option.or_eq_some_iff.1 h with hset | ⟨hnone, hsingleton⟩
  · exact .inl (findNamed?_own hset)
  · refine .inr ⟨?_, findNamed?_own hsingleton⟩
    -- An entity set of that name would have come before the singleton.
    have hmatches := (mem_of_findNamed? hsingleton).2
    refine findNamed?_eq_none_iff.2 fun other hmem hother => ?_
    exact findNamed?_eq_none_iff.1 hnone other hmem (hother.trans hmatches)

theorem findImports_eq_nil_iff :
    container.findImports name ignoreCase = [] ↔
      ∀ imp ∈ container.imports, ¬ Matches ignoreCase imp.name name := by
  simp only [findImports, Matches]
  split
  · rename_i hcase
    simp only [Bool.and_eq_true, List.isEmpty_iff, List.filter_eq_nil_iff, decide_eq_true_eq] at hcase
    obtain ⟨hexact, rfl⟩ := hcase
    simp only [List.filter_eq_nil_iff, true_and, not_or]
    exact ⟨fun h imp hmem => ⟨hexact imp hmem, h imp hmem⟩, fun h imp hmem => (h imp hmem).2⟩
  · rename_i hcase
    simp only [Bool.and_eq_true, List.isEmpty_iff, not_and, Bool.not_eq_true] at hcase
    constructor
    · intro hnone imp hmem
      have hfalse := hcase hnone
      simp only [hfalse, Bool.false_eq_true, false_and, or_false]
      simpa using List.filter_eq_nil_iff.1 hnone imp hmem
    · intro h
      refine List.filter_eq_nil_iff.2 fun imp hmem => ?_
      simpa using fun heq => h imp hmem (.inl heq)

theorem findImports_of_mem (hmem : imp ∈ container.imports) (ignoreCase : Bool) :
    container.findImports imp.name ignoreCase =
      container.imports.filter fun other => other.name = imp.name := by
  have hne : (container.imports.filter fun other => other.name = imp.name).isEmpty = false := by
    rw [List.isEmpty_eq_false_iff]
    exact List.ne_nil_of_mem (List.mem_filter.2 ⟨hmem, decide_eq_true rfl⟩)
  simp only [findImports, hne, Bool.false_and, Bool.false_eq_true, if_false]

/-- Imports that are found are found under their own name, with none besides them. -/
theorem findImports_own (h : imp ∈ container.findImports name ignoreCase) :
    imp ∈ container.findImports imp.name ignoreCase ∧
      (container.findImports imp.name ignoreCase).Sublist
        (container.findImports name ignoreCase) ∧
      imp ∈ container.imports ∧ Matches ignoreCase imp.name name := by
  simp only [findImports] at h
  split at h
  · rename_i hcase
    obtain ⟨hmem, halike⟩ := List.mem_filter.1 h
    rw [findImports_of_mem hmem]
    refine ⟨List.mem_filter.2 ⟨hmem, decide_eq_true rfl⟩, ?_, hmem,
      .inr ⟨(Bool.and_eq_true_iff.1 hcase).2, halike⟩⟩
    simp only [findImports, if_pos hcase]
    refine List.monotone_filter_right _ fun other hother => ?_
    rw [of_decide_eq_true hother]
    exact halike
  · obtain ⟨hmem, hexact⟩ := List.mem_filter.1 h
    obtain rfl := of_decide_eq_true hexact
    rw [findImports_of_mem hmem]
    exact ⟨h, .refl _, hmem, .inl rfl⟩

end Container

end ResourcePaths
