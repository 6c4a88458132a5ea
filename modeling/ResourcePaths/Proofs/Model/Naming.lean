import ResourcePaths.Model.Operation
import ResourcePaths.Proofs.Model.Inheritance
import ResourcePaths.Proofs.Model.Lookup
import ResourcePaths.Proofs.Text.Words

/-!
# Plain names

Where the names of a model are identifiers and its namespaces are dotted identifiers, an element is
found under its qualified name as it is declared, together with those that share it and with
nothing else.
-/

namespace ResourcePaths
namespace Name

/-- Whether a name is made of identifiers with dots between. -/
def isDotted (name : String) : Bool :=
  (Text.pieces '.' name).all fun piece => Text.isName piece.toList

theorem mem_piece_of_mem (separator : Char) {c : Char} {text : List Char} (h : c ∈ text) :
    c = separator ∨ ∃ piece ∈ text.splitOn separator, c ∈ piece := by
  induction text with
  | nil => contradiction
  | cons first rest ih =>
      rw [List.splitOn_cons_eq_if_modifyHead]
      by_cases hfirst : first = separator
      · rw [if_pos (by simpa using hfirst)]
        rcases List.mem_cons.1 h with rfl | hrest
        · exact .inl hfirst
        · exact (ih hrest).imp_right fun ⟨piece, hpiece, hc⟩ =>
            ⟨piece, List.mem_cons_of_mem _ hpiece, hc⟩
      · rw [if_neg (by simpa using hfirst)]
        cases hsplit : rest.splitOn separator with
        | nil => exact absurd hsplit (List.splitOn_ne_nil _ _)
        | cons piece pieces =>
            rw [hsplit] at ih
            rcases List.mem_cons.1 h with rfl | hrest
            · exact .inr ⟨c :: piece, List.mem_cons_self, List.mem_cons_self⟩
            · rcases ih hrest with rfl | ⟨found, hfound, hc⟩
              · exact .inl rfl
              · right
                rcases List.mem_cons.1 hfound with rfl | hfound
                · exact ⟨first :: found, List.mem_cons_self, List.mem_cons_of_mem _ hc⟩
                · exact ⟨found, List.mem_cons_of_mem _ hfound, hc⟩

theorem continuesName_or_dot_of_isDotted {name : String} (h : isDotted name = true) :
    ∀ c ∈ name.toList, Text.continuesName c = true ∨ c = '.' := by
  intro c hc
  rcases mem_piece_of_mem '.' hc with rfl | ⟨piece, hpiece, hmem⟩
  · exact .inr rfl
  · left
    have hname := List.all_eq_true.1 h (String.ofList piece) (List.mem_map.2 ⟨piece, hpiece, rfl⟩)
    rw [String.toList_ofList] at hname
    exact Text.all_continuesName_of_isName hname c hmem

theorem isEmpty_of_isDotted {name : String} (h : isDotted name = true) : name.isEmpty = false := by
  cases hempty : name.isEmpty with
  | false => rfl
  | true =>
      rw [String.isEmpty_iff.1 hempty] at h
      exact absurd h (by decide +kernel)

theorem dot_notMem_of_isName {name : List Char} (h : Text.isName name = true) : '.' ∉ name := by
  intro hdot
  have := Text.all_continuesName_of_isName h '.' hdot
  exact absurd this (by decide)

theorem split_of_notMem {text : String} (h : '.' ∉ text.toList) : split text = ("", text) := by
  rw [split, Text.cutLast?_eq_none_iff.2 h]

theorem split_join (front : String) {back : String} (h : '.' ∉ back.toList) :
    split (front ++ "." ++ back) = (front, back) := by
  rw [split, Text.cutLast?_join rfl front h]
  simp only [String.ofList_toList]

/-- A qualified name is cut into its namespace and its simple name again. -/
theorem split_qualify (namespaceName : String) {name : String} (h : '.' ∉ name.toList) :
    split (qualify namespaceName name) = (namespaceName, name) := by
  unfold qualify
  split
  · rename_i hempty
    rw [split_of_notMem h, String.isEmpty_iff.1 hempty]
  · exact split_join namespaceName h

end Name

namespace Model

/-- The names that a model declares are identifiers, and its namespaces dotted identifiers; no short
name stands for one namespace and is another one, and no type has the name of an operation. -/
structure PlainlyNamed (model : Model) : Prop where
  names : ∀ element ∈ model.elements, Text.isName element.name.toList = true
  namespaces : ∀ element ∈ model.elements, Name.isDotted element.namespaceName = true
  properties : ∀ type ∈ model.elements.filterMap Element.structured?,
    ∀ property ∈ type.declaredProperties, Text.isName property.name.toList = true
  sources : ∀ container ∈ model.containers,
    ∀ source ∈ container.entitySets ++ container.singletons, Text.isName source.name.toList = true
  imports : ∀ container ∈ model.containers,
    ∀ imp ∈ container.imports, Text.isName imp.name.toList = true
  aliases : ∀ element ∈ model.elements, ∀ entry ∈ model.aliases,
    entry.1 = element.namespaceName → entry.2 = element.namespaceName
  apart : ∀ element ∈ model.elements, ∀ other ∈ model.elements, element.kind.isType = true →
    other.kind.isOperation = true → element.fullName ≠ other.fullName

variable {model : Model} {element : Element}

theorem mem_aliases_of_aliased? {short namespaceName : String}
    (h : model.aliased? short = some namespaceName) : (short, namespaceName) ∈ model.aliases := by
  obtain ⟨_, _, heq, -⟩ := List.lookup_eq_some_iff.1 h
  rw [← List.mem_reverse, heq]
  exact List.mem_append_right _ List.mem_cons_self

theorem mem_matching {full : String} {ignoreCase : Bool}
    (h : element ∈ model.matching full ignoreCase) :
    element ∈ model.elements ∧
      (element.fullName = full ∨ ignoreCase = true ∧ Text.alike element.fullName full = true) := by
  rw [matching] at h
  split at h
  · split at h
    · rename_i hcase
      obtain ⟨hmem, halike⟩ := List.mem_filter.1 h
      exact ⟨hmem, .inr ⟨hcase, halike⟩⟩
    · contradiction
  · obtain ⟨hmem, hexact⟩ := List.mem_filter.1 h
    exact ⟨hmem, .inl (by simpa using hexact)⟩

theorem Indexed.mem_elements_of_mem_find (hindexed : model.Indexed) {name : String}
    {ignoreCase : Bool} (h : element ∈ model.find name ignoreCase) : element ∈ model.elements := by
  rw [hindexed.find_eq_matching] at h
  exact (mem_matching h).1

namespace PlainlyNamed

theorem fullName_eq (h : model.PlainlyNamed) (hmem : element ∈ model.elements) :
    element.fullName = element.namespaceName ++ "." ++ element.name := by
  rw [Element.fullName, Name.qualify, Name.isEmpty_of_isDotted (h.namespaces element hmem)]
  rfl

theorem continuesName_or_dot (h : model.PlainlyNamed) (hmem : element ∈ model.elements) :
    ∀ c ∈ element.fullName.toList, Text.continuesName c = true ∨ c = '.' := by
  intro c hc
  rw [h.fullName_eq hmem] at hc
  simp only [String.toList_append, List.mem_append] at hc
  rcases hc with (hc | hc) | hc
  · exact Name.continuesName_or_dot_of_isDotted (h.namespaces element hmem) c hc
  · exact .inr (List.mem_singleton.1 hc)
  · exact .inl (Text.all_continuesName_of_isName (h.names element hmem) c hc)

theorem mentions_dot (h : model.PlainlyNamed) (hmem : element ∈ model.elements) :
    Text.mentions element.fullName '.' = true := by
  rw [h.fullName_eq hmem]
  simp [Text.mentions]

theorem trimmed_fullName (h : model.PlainlyNamed) (hmem : element ∈ model.elements) :
    Text.trimmed element.fullName = element.fullName := by
  have hblank : ∀ c ∈ element.fullName.toList, Text.isBlank c = false := by
    intro c hc
    rcases h.continuesName_or_dot hmem c hc with hname | rfl
    · exact Text.isBlank_of_continuesName hname
    · decide
  rw [Text.trimmed, Text.trim_of_not_blank hblank, String.ofList_toList]

theorem split_fullName (h : model.PlainlyNamed) (hmem : element ∈ model.elements) :
    Name.split element.fullName = (element.namespaceName, element.name) :=
  Name.split_qualify _ (Name.dot_notMem_of_isName (h.names element hmem))

/-- Elements share a qualified name only if they share their simple name. -/
theorem name_eq_of_fullName_eq (h : model.PlainlyNamed) {other : Element}
    (hmem : element ∈ model.elements) (hother : other ∈ model.elements)
    (heq : element.fullName = other.fullName) : element.name = other.name := by
  have hsplit := congrArg Name.split heq
  rw [h.split_fullName hmem, h.split_fullName hother] at hsplit
  exact (Prod.mk.inj hsplit).2

/-- A qualified name does not change when short names are replaced. -/
theorem normalize_fullName (h : model.PlainlyNamed) (hmem : element ∈ model.elements) :
    model.normalize element.fullName = element.fullName := by
  simp only [normalize, h.split_fullName hmem]
  cases hshort : model.aliased? element.namespaceName with
  | none => rfl
  | some namespaceName =>
      have := h.aliases element hmem _ (mem_aliases_of_aliased? hshort) rfl
      obtain rfl : namespaceName = element.namespaceName := this
      rfl

/-- Under its qualified name an element is found with those that share it. -/
theorem find_fullName (h : model.PlainlyNamed) (hindexed : model.Indexed)
    (hmem : element ∈ model.elements) (ignoreCase : Bool) :
    model.find element.fullName ignoreCase =
      model.elements.filter fun other => other.fullName = element.fullName := by
  rw [hindexed.find_eq_matching, h.trimmed_fullName hmem, h.normalize_fullName hmem, matching]
  split
  -- The element itself is an exact match, so that case does not come in.
  · rename_i hnone
    have := List.filter_eq_nil_iff.1 hnone element hmem
    exact absurd (decide_eq_true rfl) this
  · rfl

theorem mem_find_fullName (h : model.PlainlyNamed) (hindexed : model.Indexed)
    (hmem : element ∈ model.elements) (ignoreCase : Bool) :
    element ∈ model.find element.fullName ignoreCase := by
  rw [h.find_fullName hindexed hmem]
  exact List.mem_filter.2 ⟨hmem, decide_eq_true rfl⟩

/-- What is found under the qualified name of an element has been found before, under whatever name
led to the element, and in the same order. -/
theorem find_fullName_sublist (h : model.PlainlyNamed) (hindexed : model.Indexed) {name : String}
    {ignoreCase : Bool} (hfound : element ∈ model.find name ignoreCase) :
    (model.find element.fullName ignoreCase).Sublist (model.find name ignoreCase) := by
  have hmem := hindexed.mem_elements_of_mem_find hfound
  rw [h.find_fullName hindexed hmem]
  rw [hindexed.find_eq_matching, matching] at hfound ⊢
  split at hfound
  · split at hfound
    · rename_i hcase
      have halike : Text.alike element.fullName (model.normalize (Text.trimmed name)) = true :=
        (List.mem_filter.1 hfound).2
      rw [if_pos hcase]
      -- What shares the qualified name of the element is alike to the name that led to it.
      refine List.monotone_filter_right _ fun other hother => ?_
      rw [of_decide_eq_true hother]
      exact halike
    · contradiction
  · have heq : element.fullName = model.normalize (Text.trimmed name) := by
      simpa using (List.mem_filter.1 hfound).2
    rw [heq]

theorem isName_of_mem_properties (h : model.PlainlyNamed) {type : StructuredType}
    {property : Property} (htype : .structured type ∈ model.elements)
    (hmem : property ∈ model.properties type) : Text.isName property.name.toList = true := by
  obtain ⟨declaring, hdeclaring, hproperty⟩ := declared_of_mem_properties htype hmem
  exact h.properties declaring (List.mem_filterMap.2 ⟨_, hdeclaring, rfl⟩) property hproperty

theorem operation_mentions_dot (h : model.PlainlyNamed) {operation : Operation}
    (hmem : .operation operation ∈ model.elements) :
    Text.mentions operation.fullName '.' = true := by
  have hdotted := h.mentions_dot hmem
  exact hdotted

theorem find_operation (h : model.PlainlyNamed) (hindexed : model.Indexed) {operation : Operation}
    (hmem : .operation operation ∈ model.elements) (ignoreCase : Bool) :
    model.find operation.fullName ignoreCase =
      model.elements.filter fun other => other.fullName = operation.fullName := by
  have hfind := h.find_fullName hindexed hmem ignoreCase
  exact hfind

end PlainlyNamed
end Model
end ResourcePaths
