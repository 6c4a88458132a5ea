import ResourcePaths.Proofs.Binding.Steps
import ResourcePaths.Proofs.Model.Naming

/-!
# What a binder finds under declared names

The binder looks for names in several places, one after another, up to case and behind short names.
Where the names of a model are plain, what it finds somewhere it finds there again under the
declared name, and finds nothing of that name in the places before.
-/

namespace ResourcePaths

namespace Model

/-- No type and no bound operation has the qualified name of a primitive type. -/
structure PrimitivesApart (model : Model) : Prop where
  types : ∀ element ∈ model.elements, element.kind.isType = true →
    Primitive.ofName? element.fullName = none
  operations : ∀ operation ∈ model.operations, operation.decl.isBound = true →
    Primitive.ofName? operation.fullName = none

variable {model : Model} {element : Element}

namespace PlainlyNamed

theorem isPlainName_fullName (h : model.PlainlyNamed) (hmem : element ∈ model.elements) :
    Token.IsPlainName element.fullName := by
  refine Token.isPlainName_of_names ?_ (h.continuesName_or_dot hmem)
  intro hnil
  have hdot := h.mentions_dot hmem
  rw [Text.mentions, hnil] at hdot
  contradiction

/-- A type is the only one of its qualified name if it was the only one of the name that led to
it. -/
theorem typesNamed_fullName (h : model.PlainlyNamed) (happart : model.PrimitivesApart)
    (hindexed : model.Indexed) {ignoreCase : Bool} {name : String} {target : ModelType}
    (htarget : model.typesNamed ignoreCase name = [target]) :
    (Token.IsPlainName name → Token.IsPlainName target.fullName) ∧
      (Text.mentions name '.' = true → Text.mentions target.fullName '.' = true) ∧
      model.typesNamed ignoreCase target.fullName = [target] := by
  rw [typesNamed] at htarget
  split at htarget
  · rename_i primitive hprimitive
    -- A primitive type has been written by its own name already.
    obtain rfl := List.singleton_inj.1 htarget
    have hname : primitive.name = name := by
      simpa using List.find?_some hprimitive
    have hfull : (ModelType.primitive primitive).fullName = name := hname
    rw [hfull, typesNamed, hprimitive]
    exact ⟨id, id, rfl⟩
  · have hmem : target ∈ (model.find name ignoreCase).filterMap Element.type? := by
      rw [htarget]
      exact List.mem_singleton_self _
    obtain ⟨element, hfound, htype⟩ := List.mem_filterMap.1 hmem
    obtain ⟨hkind, hfull⟩ := isType_of_type? htype
    have helement := hindexed.mem_elements_of_mem_find hfound
    have hsublist := (h.find_fullName_sublist hindexed hfound).filterMap Element.type?
    have hagain : target ∈ (model.find element.fullName ignoreCase).filterMap Element.type? :=
      List.mem_filterMap.2 ⟨element, h.mem_find_fullName hindexed helement ignoreCase, htype⟩
    rw [← hfull]
    refine ⟨fun _ => h.isPlainName_fullName helement, fun _ => h.mentions_dot helement, ?_⟩
    rw [typesNamed, happart.types element helement hkind]
    rw [htarget, List.sublist_singleton] at hsublist
    rcases hsublist with hnil | hsingleton
    · rw [hnil] at hagain
      contradiction
    · exact hsingleton

/-- No type has the qualified name of a bound operation. -/
theorem typesNamed_operation (h : model.PlainlyNamed) (happart : model.PrimitivesApart)
    (hindexed : model.Indexed) {operation : Operation}
    (hmem : .operation operation ∈ model.elements) (hbound : operation.decl.isBound = true)
    (ignoreCase : Bool) : model.typesNamed ignoreCase operation.fullName = [] := by
  have hoperation := isOperation_operation operation
  have hprimitive := happart.operations operation (mem_filterMap_operation?.2 hmem) hbound
  rw [typesNamed, hprimitive]
  refine List.filterMap_eq_nil_iff.2 fun element hfound => ?_
  rw [h.find_operation hindexed hmem, List.mem_filter] at hfound
  cases htype : element.type? with
  | none => rfl
  | some type =>
      have hapart := h.apart element hfound.1 _ hmem (isType_of_type? htype).1 hoperation
      exact absurd (of_decide_eq_true hfound.2) hapart

end PlainlyNamed
end Model

namespace Binder

/-- What a binder needs for its paths to bind again. -/
structure IsPlain (binder : Binder) : Prop where
  indexed : binder.model.Indexed
  named : binder.model.PlainlyNamed
  apart : binder.model.PrimitivesApart
  ofModel : ∀ container ∈ binder.container, container ∈ binder.model.containers

variable {binder : Binder}

namespace IsPlain

/-! ### Properties, types and operations -/

section Current

variable {current : ModelType}

theorem property_own (h : binder.IsPlain) (hcurrent : current.Within binder.model) {name : String}
    {property : Property} (hfound : binder.propertyNamed? current name = some property) :
    Text.isName property.name.toList = true ∧
      binder.propertyNamed? current property.name = some property := by
  obtain ⟨structured, rfl, hproperty⟩ := propertyNamed?_eq_some_iff.1 hfound
  rw [Model.findProperty?, Property.find?_eq_findNamed?] at hproperty
  have hmem := List.mem_reverse.1 (mem_of_findNamed? hproperty).1
  refine ⟨h.named.isName_of_mem_properties hcurrent hmem, ?_⟩
  exact propertyNamed?_eq_some_iff.2 ⟨structured, rfl, findNamed?_own hproperty⟩

/-- No property has the qualified name of an element. -/
theorem propertyNamed?_eq_none (h : binder.IsPlain) (hcurrent : current.Within binder.model)
    {name : String} (hdotted : Text.mentions name '.' = true) :
    binder.propertyNamed? current name = none := by
  cases hfound : binder.propertyNamed? current name with
  | none => rfl
  | some property =>
      obtain ⟨structured, rfl, hproperty⟩ := propertyNamed?_eq_some_iff.1 hfound
      rw [Model.findProperty?, Property.find?_eq_findNamed?] at hproperty
      obtain ⟨hmem, hmatches⟩ := mem_of_findNamed? hproperty
      have hname := h.named.isName_of_mem_properties hcurrent (List.mem_reverse.1 hmem)
      have hnodot := Name.dot_notMem_of_isName hname
      rw [← hmatches.mentions_dot, Text.mentions, List.contains_iff_mem] at hdotted
      contradiction

theorem operation_mem (h : binder.IsPlain) {name : String} {operation : Operation}
    (hmem : operation ∈
      (binder.model.find name binder.settings.ignoreCase).filterMap Element.operation?) :
    .operation operation ∈ binder.model.elements :=
  h.indexed.mem_elements_of_mem_find (Model.mem_filterMap_operation?.1 hmem)

/-- The operations of a qualified name are among those of any name that led to one of them. -/
theorem operations_own (h : binder.IsPlain) {name : String} {operation : Operation}
    (hmem : operation ∈
      (binder.model.find name binder.settings.ignoreCase).filterMap Element.operation?) :
    ((binder.model.find operation.fullName binder.settings.ignoreCase).filterMap
        Element.operation?).Sublist
      ((binder.model.find name binder.settings.ignoreCase).filterMap Element.operation?) := by
  have hfound := Model.mem_filterMap_operation?.1 hmem
  exact (h.named.find_fullName_sublist h.indexed hfound).filterMap Element.operation?

theorem mem_operations_own (h : binder.IsPlain) {operation : Operation}
    (hmem : .operation operation ∈ binder.model.elements) :
    operation ∈ (binder.model.find operation.fullName
      binder.settings.ignoreCase).filterMap Element.operation? :=
  Model.mem_filterMap_operation?.2
    (h.named.mem_find_fullName h.indexed hmem binder.settings.ignoreCase)

/-- A call without a namespace is considered for every operation of the qualified name. -/
theorem unqualified_own (h : binder.IsPlain) {operation : Operation}
    (hmem : .operation operation ∈ binder.model.elements) :
    ((binder.model.find operation.fullName binder.settings.ignoreCase).filterMap
        Element.operation?).Sublist
      (binder.model.operations.filter fun other => other.decl.name = operation.decl.name) := by
  rw [h.named.find_operation h.indexed hmem]
  have hsublist : ((binder.model.elements.filter fun other =>
      other.fullName = operation.fullName).filterMap Element.operation?).Sublist
        binder.model.operations := List.filter_sublist.filterMap Element.operation?
  have hnames : ∀ other ∈ (binder.model.elements.filter fun other =>
      other.fullName = operation.fullName).filterMap Element.operation?,
        decide (other.decl.name = operation.decl.name) = true := by
    intro other hother
    obtain ⟨hother, hfull⟩ := List.mem_filter.1 (Model.mem_filterMap_operation?.1 hother)
    exact decide_eq_true (h.named.name_eq_of_fullName_eq hother hmem (of_decide_eq_true hfull))
  rw [← List.filter_eq_self.2 hnames]
  exact hsublist.filter _

/-- An operation that may be called on a value may be called by its qualified name, with no
others to choose from than before. -/
theorem boundCandidates_own (h : binder.IsPlain) {name : String} {type : ModelType}
    {operation : Operation} (hmem : operation ∈ binder.boundCandidates name type) :
    .operation operation ∈ binder.model.elements ∧
      operation ∈ binder.boundCandidates operation.fullName type ∧
      (binder.boundCandidates operation.fullName type).Sublist
        (binder.boundCandidates name type) := by
  have hbound := isBoundTo_of_mem_boundCandidates hmem
  have hown (helement : .operation operation ∈ binder.model.elements) :
      binder.boundCandidates operation.fullName type =
        ((binder.model.find operation.fullName binder.settings.ignoreCase).filterMap
          Element.operation?).filter (binder.model.isBoundTo type) := by
    rw [boundCandidates, if_pos (h.named.operation_mentions_dot helement)]
  have hagain (helement : .operation operation ∈ binder.model.elements) :
      operation ∈ binder.boundCandidates operation.fullName type := by
    rw [hown helement]
    exact List.mem_filter.2 ⟨h.mem_operations_own helement, hbound⟩
  simp only [boundCandidates] at hmem
  split at hmem
  -- Behind a qualified name nothing else is found under the name of the operation.
  · rename_i hdotted
    have hfound := (List.mem_filter.1 hmem).1
    have helement := h.operation_mem hfound
    refine ⟨helement, hagain helement, ?_⟩
    rw [hown helement, boundCandidates, if_pos hdotted]
    exact (h.operations_own hfound).filter _
  · rename_i hdotted
    split at hmem
    -- Behind a simple name, the operations of the qualified name are some of those that share it.
    · rename_i hunqualified
      obtain ⟨hmem, hname⟩ := List.mem_filter.1 hmem
      have helement := Model.mem_filterMap_operation?.1 (List.mem_filter.1 hmem).1
      refine ⟨helement, hagain helement, ?_⟩
      rw [hown helement, boundCandidates]
      simp only [if_neg hdotted, if_pos hunqualified, Model.findBoundOperations]
      have hfiltered := (h.unqualified_own helement).filter (binder.model.isBoundTo type)
      refine hfiltered.trans ?_
      rw [List.filter_comm]
      refine List.monotone_filter_right _ fun other hother => ?_
      rw [of_decide_eq_true hother]
      exact hname
    · contradiction

/-- No type has the qualified name of an operation that may be called on a value. -/
theorem castTargets_operation (h : binder.IsPlain) {type : ModelType} {operation : Operation}
    (hmem : .operation operation ∈ binder.model.elements)
    (hbound : binder.model.isBoundTo type operation = true) :
    binder.castTargets operation.fullName = [] := by
  obtain ⟨parameter, hparameter, -⟩ := isBoundTo_iff.1 hbound
  have hisBound : operation.decl.isBound = true := by
    by_cases hdecl : operation.decl.isBound = true
    · exact hdecl
    · rw [Operation.bindingParameter?, if_neg hdecl] at hparameter
      contradiction
  unfold castTargets
  split
  · exact h.named.typesNamed_operation h.apart h.indexed hmem hisBound _
  · rfl

end Current

/-! ### Members of the container -/

section Root

variable {container : Container}

theorem source_isName (h : binder.IsPlain) (hcontainer : binder.container = some container)
    {source : DeclaredSource} (hmem : source ∈ container.entitySets ++ container.singletons) :
    Text.isName source.name.toList = true :=
  h.named.sources container (h.ofModel container hcontainer) source hmem

theorem import_isName (h : binder.IsPlain) (hcontainer : binder.container = some container)
    {imp : OperationImport} (hmem : imp ∈ container.imports) :
    Text.isName imp.name.toList = true :=
  h.named.imports container (h.ofModel container hcontainer) imp hmem

/-- Nothing in a container has a qualified name. -/
theorem findSource?_eq_none (h : binder.IsPlain) (hcontainer : binder.container = some container)
    {name : String} (hdotted : Text.mentions name '.' = true) (ignoreCase : Bool) :
    container.findSource? name ignoreCase = none ∧ container.findImports name ignoreCase = [] := by
  have hnodot {own : String} (hown : Text.isName own.toList = true) :
      ¬ Text.Matches ignoreCase own name := by
    intro hmatches
    rw [← hmatches.mentions_dot, Text.mentions, List.contains_iff_mem] at hdotted
    exact Name.dot_notMem_of_isName hown hdotted
  constructor
  · exact Container.findSource?_eq_none_iff.2 fun source hmem =>
      hnodot (h.source_isName hcontainer hmem)
  · exact Container.findImports_eq_nil_iff.2 fun imp hmem =>
      hnodot (h.import_isName hcontainer hmem)

end Root

end IsPlain
end Binder
end ResourcePaths
