import ResourcePaths.Proofs.Model.BaseChains
import ResourcePaths.Proofs.Model.FullNames
import ResourcePaths.Proofs.Model.Imports
import ResourcePaths.Proofs.Session.Queries

/-!
# Clashes of names

Three kinds of names may clash: the qualified names of elements, the names of the members of a
container, and the names of the properties of a type and its base types.  Each is looked for in its
own way, and each way finds exactly the clashes: overloads of an action or of a function share their
name by right, and so do imports of one operation.  In a model without problems a name stands for one
thing, or for one group of overloads.
-/

namespace ResourcePaths

/-! ### What a clash is -/

namespace Element

/-- Both elements are actions, or both are functions. -/
def Overloads (element other : Element) : Prop :=
  element.kind = .action ∧ other.kind = .action ∨ element.kind = .function ∧ other.kind = .function

/-- Another element has the qualified name, and the two are no overloads. -/
structure ClashesWith (element other : Element) : Prop where
  ne : other ≠ element
  name : other.fullName = element.fullName
  apart : ¬ element.Overloads other

instance (element other : Element) : Decidable (element.Overloads other) :=
  inferInstanceAs (Decidable (_ ∨ _))

theorem overloads_iff {element other : Element} :
    element.Overloads other ↔ element.kind.mayShare other.kind = true := by
  unfold Overloads ElementKind.mayShare
  generalize element.kind = left
  generalize other.kind = right
  cases left <;> cases right <;> decide

end Element

/-- A member of a container. -/
inductive Member where
  /-- An entity set or a singleton. -/
  | source (node : DeclaredSource)
  /-- An import of an operation. -/
  | imported (node : OperationImport)

namespace Member

def name : Member → String
  | source node => node.name
  | imported node => node.name

/-- The qualified name of the operation that an import imports. -/
def operationName? : Member → Option String
  | source _ => none
  | imported node => some node.operationName

end Member

namespace Container

/-- The members of a container: entity sets, singletons and imports. -/
def members (container : Container) : List Member :=
  (container.entitySets ++ container.singletons).map .source ++ container.imports.map .imported

/-- All members of a name import an operation of one name. -/
def IsGroup (container : Container) (name operationName : String) : Prop :=
  ∀ member ∈ container.members, member.name = name → member.operationName? = some operationName

/-- Two members share a name, and the members of that name are not the imports of one operation. -/
def HasClash (container : Container) : Prop :=
  ∃ member ∈ container.members, ∃ other ∈ container.members, member ≠ other ∧
    member.name = other.name ∧ ¬ ∃ operationName, container.IsGroup member.name operationName

end Container

namespace Model

/-- A property is declared by a type or by a type that can be reached along base types. -/
def DeclaresAlong (model : Model) (type : StructuredType) (property : Property) : Prop :=
  ∃ declaring, Relation.ReflTransGen model.HasBase type declaring ∧
    property ∈ declaring.declaredProperties

/-- Two properties of a type and its base types share a name. -/
def HasPropertyClash (model : Model) (type : StructuredType) : Prop :=
  ∃ property other, model.DeclaresAlong type property ∧ model.DeclaresAlong type other ∧
    property ≠ other ∧ property.name = other.name

end Model

/-! ### Problems that are no clashes -/

/-- The codes of clashes of names. -/
def ErrorCode.isOfClash : ErrorCode → Bool
  | duplicateElementName | duplicateMemberName | duplicatePropertyName => true
  | _ => false

/-- None of the problems is a clash of names. -/
def Clashless (errors : List ModelError) : Prop :=
  ∀ error ∈ errors, error.code.isOfClash = false

namespace Clashless

variable {front back errors : List ModelError} {error : ModelError}

theorem nil : Clashless [] := List.forall_mem_nil _

theorem singleton (h : error.code.isOfClash = false) : Clashless [error] :=
  List.forall_mem_singleton.2 h

theorem append (hfront : Clashless front) (hback : Clashless back) : Clashless (front ++ back) :=
  List.forall_mem_append.2 ⟨hfront, hback⟩

theorem map {α : Type} {items : List α} {errorOf : α → ModelError}
    (h : ∀ item, (errorOf item).code.isOfClash = false) : Clashless (items.map errorOf) :=
  List.forall_mem_map.2 fun item _ => h item

theorem flatMap {α : Type} {items : List α} {errorsOf : α → List ModelError}
    (h : ∀ item, Clashless (errorsOf item)) : Clashless (items.flatMap errorsOf) := by
  intro error hmem
  obtain ⟨item, -, hitem⟩ := List.mem_flatMap.1 hmem
  exact h item error hitem

theorem ite {holds : Prop} [Decidable holds] (hfront : Clashless front) (hback : Clashless back) :
    Clashless (if holds then front else back) := by
  split
  · exact hfront
  · exact hback

theorem of_referenceErrors (h : ReferenceErrors errors) : Clashless errors := by
  intro error hmem
  have hcode := h error hmem
  cases hof : error.code <;> rw [hof] at hcode <;> first | rfl | contradiction

theorem not_mem (h : Clashless errors) (hcode : error.code.isOfClash = true) : error ∉ errors := by
  intro hmem
  rw [h error hmem] at hcode
  contradiction

/-- A clash in front of problems that are none is one of those in front. -/
theorem mem_append_iff (h : Clashless back) (hcode : error.code.isOfClash = true) :
    error ∈ front ++ back ↔ error ∈ front :=
  List.mem_append.trans (or_iff_left (h.not_mem hcode))

/-- A clash behind problems that are none is one of those behind. -/
theorem append_mem_iff (h : Clashless front) (hcode : error.code.isOfClash = true) :
    error ∈ front ++ back ↔ error ∈ back :=
  List.mem_append.trans (or_iff_right (h.not_mem hcode))

end Clashless

namespace Declared.Constant

theorem clashless_errors (constant : Constant) : Clashless constant.errors := by
  rw [errors, resolved]
  split
  · exact .nil
  · exact .singleton rfl

end Declared.Constant

namespace Model

variable {model : Model} {error : ModelError}

theorem clashless_keyErrors (type : StructuredType) (properties : List Property)
    (names : Option (List String)) : Clashless (type.keyErrors properties names) := by
  intro error hmem
  rcases code_of_mem_keyErrors hmem with hcode | hcode <;> rw [hcode] <;> rfl

theorem clashless_parameterErrors (operation : Operation) (parameters : List Parameter)
    (seen : List String) :
    Clashless (operation.parameterErrors
      (fun parameter => (parameter.referenceIn (some model)).errors) seen parameters) := by
  induction parameters generalizing seen with
  | nil => exact .nil
  | cons parameter rest ih =>
      have hrepeat : Clashless (operation.repeatErrors seen parameter) :=
        .ite (.singleton rfl) .nil
      have hreference : Clashless (parameter.referenceIn (some model)).errors :=
        .of_referenceErrors (referenceErrors_resolve _ _)
      exact (hrepeat.append hreference).append (ih _)

theorem clashless_resultReference (operation : Operation) :
    Clashless (operation.resultReferenceIn (some model)).errors := by
  rw [Operation.resultReferenceIn]
  cases operation.decl.returnType with
  | none => exact .nil
  | some result => exact .of_referenceErrors (referenceErrors_resolve _ _)

theorem clashless_sourceErrors (source : DeclaredSource) :
    Clashless (model.sourceErrors source) := by
  have hreference : Clashless (source.referenceIn (some model)).errors :=
    .of_referenceErrors (referenceErrors_resolveStructured _ _ _ _)
  have hbindings : Clashless (source.bindingsIn (some model)).errors := .map fun _ => rfl
  exact hreference.append hbindings

theorem clashless_importErrors (imp : OperationImport) :
    Clashless (model.importErrors imp) := by
  have hoperations : Clashless (imp.operationsIn (some model)).errors :=
    .ite (.singleton rfl) (.map fun _ => rfl)
  have hset : Clashless (imp.entitySetErrors (some model)) := by
    rw [OperationImport.entitySetErrors]
    cases imp.entitySet with
    | none => exact .nil
    | some name => exact .ite .nil (.singleton rfl)
  exact hoperations.append hset

/-! ### Where clashes are reported -/

theorem mem_structuredErrors_of_clash (type : StructuredType)
    (hcode : error.code.isOfClash = true) :
    error ∈ model.structuredErrors type ↔
      error ∈ model.duplicateErrors (.structured type) type.decl.location ∨
        error ∈ (repeatedBy Property.name [] (model.properties type)).map fun property =>
          ⟨property.location, .duplicateProperty property.name type.fullName⟩ := by
  have hbase : Clashless (type.baseReferenceIn (some model)).errors :=
    .of_referenceErrors (referenceErrors_base type)
  have hdeclared : Clashless (type.declaredProperties.flatMap model.propertyErrors) :=
    .flatMap fun property => .of_referenceErrors (referenceErrors_property property)
  have hkey : Clashless (if type.kind = .entity && !model.isCyclic type then
      type.keyErrors (model.properties type) (model.keyNames? type) else []) :=
    .ite (clashless_keyErrors _ _ _) .nil
  have hcyclic : Clashless (if model.isCyclic type then
      [⟨type.decl.location, .cyclicBase type.fullName⟩] else []) := .ite (.singleton rfl) .nil
  rw [structuredErrors, StructuredType.gatherErrors, hkey.mem_append_iff hcode,
    hdeclared.mem_append_iff hcode, List.mem_append, hcyclic.mem_append_iff hcode,
    hbase.append_mem_iff hcode]

theorem mem_containerErrors_of_clash (container : Container)
    (hcode : error.code.isOfClash = true) :
    error ∈ model.containerErrors container ↔
      error ∈ model.duplicateErrors (.container container) container.decl.location ∨
        error ∈ (Container.clashes [] container.memberNames).map fun name =>
          ⟨container.decl.location, .duplicateMember name container.fullName⟩ := by
  have hsources : Clashless ((container.entitySets ++ container.singletons).flatMap
      model.sourceErrors) := .flatMap clashless_sourceErrors
  have himports : Clashless (container.imports.flatMap model.importErrors) :=
    .flatMap clashless_importErrors
  rw [containerErrors, Container.gatherErrors, himports.mem_append_iff hcode,
    hsources.mem_append_iff hcode, List.mem_append]

/-- A clash of the qualified name of an element comes from nothing else than the look for it. -/
theorem mem_elementErrors_of_duplicateElementName (element : Element) :
    ∃ location, ∀ error : ModelError, error.code = .duplicateElementName →
      (error ∈ model.elementErrors element ↔ error ∈ model.duplicateErrors element location) := by
  cases element with
  | structured type =>
      refine ⟨type.decl.location, fun error hcode => ?_⟩
      refine (mem_structuredErrors_of_clash type (by rw [hcode]; rfl)).trans (or_iff_left ?_)
      intro hproperty
      obtain ⟨property, -, rfl⟩ := List.mem_map.1 hproperty
      contradiction
  | container container =>
      refine ⟨container.decl.location, fun error hcode => ?_⟩
      refine (mem_containerErrors_of_clash container (by rw [hcode]; rfl)).trans (or_iff_left ?_)
      intro hmember
      obtain ⟨name, -, rfl⟩ := List.mem_map.1 hmember
      contradiction
  | enum type =>
      refine ⟨type.decl.location, fun error hcode => ?_⟩
      have hclash : error.code.isOfClash = true := by rw [hcode]; rfl
      have hunderlying : Clashless type.underlyingErrors := by
        rw [EnumType.underlyingErrors]
        cases type.decl.underlyingType with
        | none => exact .nil
        | some name => exact .ite .nil (.singleton rfl)
      have hmembers : Clashless ((repeatedBy EnumMember.name [] type.members).map fun member =>
          ⟨type.decl.location, .duplicateEnumMember member.name⟩) := .map fun _ => rfl
      exact (hmembers.mem_append_iff hclash).trans (hunderlying.mem_append_iff hclash)
  | definition type =>
      refine ⟨type.decl.location, fun error hcode => ?_⟩
      exact Clashless.mem_append_iff (.ite .nil (.singleton rfl)) (by rw [hcode]; rfl)
  | operation operation =>
      refine ⟨operation.decl.location, fun error hcode => ?_⟩
      have hclash : error.code.isOfClash = true := by rw [hcode]; rfl
      rw [elementErrors, operationErrors, Operation.gatherErrors,
        (clashless_resultReference operation).mem_append_iff hclash,
        (clashless_parameterErrors operation _ _).mem_append_iff hclash,
        Clashless.mem_append_iff (.ite (.singleton rfl) .nil) hclash,
        Clashless.mem_append_iff (.ite (.singleton rfl) .nil) hclash]
  | term term =>
      refine ⟨term.decl.location, fun error hcode => ?_⟩
      have hclash : error.code.isOfClash = true := by rw [hcode]; rfl
      have hreference : Clashless (term.referenceIn (some model)).errors :=
        .of_referenceErrors (referenceErrors_resolve _ _)
      have hdefault : Clashless (((model.termDefault? term).map
          Declared.Constant.errors).getD []) := by
        cases model.termDefault? term with
        | none => exact .nil
        | some constant => exact constant.clashless_errors
      exact (hdefault.mem_append_iff hclash).trans (hreference.mem_append_iff hclash)

/-! ### Qualified names -/

theorem clashesWith_or (element other : Element) (hname : other.fullName = element.fullName) :
    element.ClashesWith other ∨ other = element ∨ element.Overloads other := by
  by_cases hsame : other = element
  · exact .inr (.inl hsame)
  · by_cases hoverloads : element.Overloads other
    · exact .inr (.inr hoverloads)
    · exact .inl ⟨hsame, hname, hoverloads⟩

/-- The look for clashes of the qualified name of an element finds something exactly if there is
one. -/
theorem duplicateErrors_ne_nil_iff (hindexed : model.Indexed) {element : Element}
    (hmem : element ∈ model.elements) (location : Declared.Location) :
    model.duplicateErrors element location ≠ [] ↔
      ∃ other ∈ model.elements, element.ClashesWith other := by
  constructor
  · intro h
    simp only [duplicateErrors, hindexed.find?_index] at h
    split at h
    · rename_i hany
      obtain ⟨id, hid, hclashes⟩ := List.any_eq_true.1 hany
      obtain ⟨other, hother, rfl⟩ := List.mem_map.1 hid
      obtain ⟨hother, hname⟩ := List.mem_filter.1 hother
      rw [hindexed.element?_id hother] at hclashes
      simp only [Option.any_some, Bool.and_eq_true, decide_eq_true_eq, Bool.not_eq_true'] at hclashes
      refine ⟨other, hother, fun hsame => hclashes.1 (congrArg Element.id hsame),
        of_decide_eq_true hname, fun hoverloads => ?_⟩
      rw [Element.overloads_iff, hclashes.2] at hoverloads
      contradiction
    · contradiction
  · rintro ⟨other, hother, hclash⟩ hnone
    rcases mayShare_of_duplicateErrors hindexed hnone hother hclash.name with hid | hshare
    · exact hclash.ne (hindexed.eq_of_id_eq hother hmem hid)
    · exact hclash.apart (Element.overloads_iff.2 hshare)

/-- A clash of its qualified name is reported by an element exactly if another element has the name
and the two are no overloads. -/
theorem duplicateElementName_reported_iff (hindexed : model.Indexed) {element : Element}
    (hmem : element ∈ model.elements) :
    (∃ error ∈ model.elementErrors element, error.code = .duplicateElementName) ↔
      ∃ other ∈ model.elements, element.ClashesWith other := by
  obtain ⟨location, hlocation⟩ := model.mem_elementErrors_of_duplicateElementName element
  rw [← duplicateErrors_ne_nil_iff hindexed hmem location]
  constructor
  · rintro ⟨error, herror, hcode⟩
    exact List.ne_nil_of_mem ((hlocation error hcode).1 herror)
  · intro hne
    obtain ⟨error, herror⟩ := List.exists_mem_of_ne_nil _ hne
    have hcode := code_of_mem_duplicateErrors herror
    exact ⟨error, (hlocation error hcode).2 herror, hcode⟩

/-! ### Members of a container -/

end Model

namespace Container

variable {container : Container}

/-- Entity sets, singletons and imports are told apart by their sort and their position. -/
theorem nodup_members (container : Container) : container.members.Nodup := by
  have hnumbered {α : Type} (decls : List α) (make : α × Nat → DeclaredSource)
      (hmake : ∀ numbered, (make numbered).position = numbered.2) :
      (decls.zipIdx.map make).Nodup := by
    apply List.Nodup.of_map DeclaredSource.position
    have hpositions : DeclaredSource.position ∘ make = Prod.snd := funext hmake
    rw [List.map_map, hpositions, List.zipIdx_map_snd]
    exact List.nodup_range'
  have hsources : (container.entitySets ++ container.singletons).Nodup := by
    refine List.nodup_append.2 ⟨hnumbered _ _ fun _ => rfl, hnumbered _ _ fun _ => rfl, ?_⟩
    intro source hset other hsingleton
    obtain ⟨_, -, rfl⟩ := List.mem_map.1 hset
    obtain ⟨_, -, rfl⟩ := List.mem_map.1 hsingleton
    exact fun hsame => SourceKind.noConfusion (DeclaredSource.mk.inj hsame).2.1
  refine List.nodup_append.2 ⟨hsources.map fun _ _ => Member.source.inj,
    container.nodup_imports.map fun _ _ => Member.imported.inj, ?_⟩
  intro member hsource other himport
  obtain ⟨_, -, rfl⟩ := List.mem_map.1 hsource
  obtain ⟨_, -, rfl⟩ := List.mem_map.1 himport
  exact Member.noConfusion

/-- Members of one name import one operation. -/
def Agree (member other : Member) : Prop :=
  member.name = other.name →
    other.operationName?.isSome = true ∧ member.operationName? = other.operationName?

theorem Agree.symm {member other : Member} (h : Agree member other) : Agree other member := by
  intro hname
  obtain ⟨hsome, hsame⟩ := h hname.symm
  exact ⟨hsame ▸ hsome, hsame.symm⟩

theorem memberNames_eq (container : Container) :
    container.memberNames =
      container.members.map fun member => (member.name, member.operationName?) := by
  rw [members, List.map_append, List.map_map, List.map_map]
  rfl

/-- The look for clashes of members finds nothing exactly if any two members agree. -/
theorem clashes_memberNames_eq_nil_iff :
    clashes [] container.memberNames = [] ↔
      ∀ member ∈ container.members, ∀ other ∈ container.members, member ≠ other →
        Agree member other := by
  rw [clashes_eq_nil_iff, memberNames_eq, List.pairwise_map]
  constructor
  · intro hpairs member hmem other hother hne
    have hagree : container.members.Pairwise Agree := hpairs
    have hsymm : Std.Symm Agree := ⟨fun _ _ => Agree.symm⟩
    exact hagree.forall hmem hother hne
  · intro h
    refine List.Pairwise.imp_of_mem ?_ container.nodup_members
    intro member other hmem hother hne
    exact h member hmem other hother hne

theorem clashes_memberNames_ne_nil_iff :
    clashes [] container.memberNames ≠ [] ↔ container.HasClash := by
  rw [Ne, clashes_memberNames_eq_nil_iff]
  constructor
  · intro h
    push Not at h
    obtain ⟨member, hmem, other, hother, hne, hdisagree⟩ := h
    obtain ⟨hname, hapart⟩ := Classical.not_imp.1 hdisagree
    refine ⟨member, hmem, other, hother, hne, hname, ?_⟩
    rintro ⟨operationName, hgroup⟩
    have hthis := hgroup other hother hname.symm
    exact hapart ⟨by rw [hthis]; rfl, (hgroup member hmem rfl).trans hthis.symm⟩
  · rintro ⟨member, hmem, other, hother, hne, hname, hapart⟩ hagree
    -- All members of the name agree with the first one, so that they are a group.
    obtain ⟨hsome, hsame⟩ := hagree other hother member hmem hne.symm hname.symm
    obtain ⟨operationName, hoperation⟩ := Option.isSome_iff_exists.1 hsome
    refine hapart ⟨operationName, fun third hthird hnamed => ?_⟩
    by_cases heq : third = member
    · rw [heq, hoperation]
    · rw [(hagree third hthird member hmem heq hnamed).2, hoperation]

end Container

namespace Model

variable {model : Model}

/-- A clash of members is reported exactly if there is one. -/
theorem duplicateMemberName_reported_iff (container : Container) :
    (∃ error ∈ model.containerErrors container, error.code = .duplicateMemberName) ↔
      container.HasClash := by
  rw [← Container.clashes_memberNames_ne_nil_iff]
  constructor
  · rintro ⟨error, herror, hcode⟩
    rcases (mem_containerErrors_of_clash container (by rw [hcode]; rfl)).1 herror with
      helement | hmember
    · have := code_of_mem_duplicateErrors helement
      rw [hcode] at this
      contradiction
    · exact fun hnil => List.ne_nil_of_mem hmember (by rw [hnil]; rfl)
  · intro hne
    obtain ⟨name, hname⟩ := List.exists_mem_of_ne_nil _ hne
    refine ⟨⟨container.decl.location, .duplicateMember name container.fullName⟩, ?_, rfl⟩
    exact (mem_containerErrors_of_clash container rfl).2 (.inr (List.mem_map_of_mem hname))

/-! ### Properties of a type -/

theorem mem_properties_iff (hindexed : model.Indexed) {type : StructuredType}
    (htype : .structured type ∈ model.elements) {property : Property} :
    property ∈ model.properties type ↔ model.DeclaresAlong type property := by
  rw [properties_eq, List.mem_flatMap]
  simp only [List.mem_reverse, DeclaresAlong, mem_ancestors_iff hindexed htype]

/-- A clash of properties is reported exactly if two properties of the type and its base types share
a name. -/
theorem duplicatePropertyName_reported_iff (hindexed : model.Indexed) {type : StructuredType}
    (htype : .structured type ∈ model.elements) :
    (∃ error ∈ model.structuredErrors type, error.code = .duplicatePropertyName) ↔
      model.HasPropertyClash type := by
  have hrepeated : repeatedBy Property.name [] (model.properties type) ≠ [] ↔
      model.HasPropertyClash type := by
    rw [Ne, repeatedBy_eq_nil_iff, HasPropertyClash]
    simp only [List.not_mem_nil, not_false_iff, implies_true, and_true,
      List.nodup_map_iff_inj_on (nodup_properties type), mem_properties_iff hindexed htype]
    push Not
    constructor
    · rintro ⟨property, hproperty, other, hother, hname, hne⟩
      exact ⟨property, other, hproperty, hother, hne, hname⟩
    · rintro ⟨property, other, hproperty, hother, hne, hname⟩
      exact ⟨property, hproperty, other, hother, hname, hne⟩
  rw [← hrepeated]
  constructor
  · rintro ⟨error, herror, hcode⟩
    rcases (mem_structuredErrors_of_clash type (by rw [hcode]; rfl)).1 herror with
      helement | hproperty
    · have := code_of_mem_duplicateErrors helement
      rw [hcode] at this
      contradiction
    · exact fun hnil => List.ne_nil_of_mem hproperty (by rw [hnil]; rfl)
  · intro hne
    obtain ⟨property, hproperty⟩ := List.exists_mem_of_ne_nil _ hne
    refine ⟨⟨property.location, .duplicateProperty property.name type.fullName⟩, ?_, rfl⟩
    exact (mem_structuredErrors_of_clash type rfl).2 (.inr (List.mem_map_of_mem hproperty))

/-! ### Any session -/

/-- Whatever has been asked before, an element reports a clash of its qualified name exactly if
another element has the name and the two are no overloads; a container reports a clash of members
exactly if two of them share a name that is not that of the imports of one operation; and a type
reports a clash of properties exactly if two of them, declared along its base types, share a name.
Where validation finds nothing, a name therefore stands for one thing or for one group. -/
theorem clashes_exact (description : Declared.Description) (asked : List Query) :
    let model := ofDescription description
    let session := (Session.start model).after asked
    (∀ element ∈ model.elements,
      ((∃ error ∈ session.answer (.errorsOf (.element element)),
          error.code = .duplicateElementName) ↔
        ∃ other ∈ model.elements, element.ClashesWith other)) ∧
    (∀ container, .container container ∈ model.elements →
      ((∃ error ∈ session.answer (.errorsOf (.element (.container container))),
          error.code = .duplicateMemberName) ↔ container.HasClash)) ∧
    (∀ type, .structured type ∈ model.elements →
      ((∃ error ∈ session.answer (.errorsOf (.element (.structured type))),
          error.code = .duplicatePropertyName) ↔ model.HasPropertyClash type)) ∧
    (session.answer .validation = [] →
      (∀ element ∈ model.elements, ∀ other ∈ model.elements,
        other.fullName = element.fullName → other = element ∨ element.Overloads other) ∧
      (∀ container, .container container ∈ model.elements →
        ∀ member ∈ container.members, ∀ other ∈ container.members, member.name = other.name →
          member = other ∨ ∃ operationName, container.IsGroup member.name operationName) ∧
      ∀ type, .structured type ∈ model.elements →
        ∀ property other, model.DeclaresAlong type property → model.DeclaresAlong type other →
          property.name = other.name → property = other) := by
  intro model session
  have hindexed : model.Indexed := indexed_ofDescription description
  have hlive : Session.Live model session := Session.live_after model asked
  have herrors (element : Element) : session.answer (.errorsOf (.element element)) =
      model.elementErrors element := (Session.gives_elementErrors element _ hlive).1
  have hvalidation : session.answer .validation = model.validate :=
    (Session.gives_validate _ hlive).1
  have helement := fun element (hmem : element ∈ model.elements) =>
    duplicateElementName_reported_iff hindexed hmem
  have hcontainer := model.duplicateMemberName_reported_iff
  have htype := fun type (hmem : .structured type ∈ model.elements) =>
    duplicatePropertyName_reported_iff hindexed hmem
  simp only [herrors, hvalidation]
  refine ⟨helement, fun container _ => hcontainer container, htype, fun hclean => ?_⟩
  -- An element of a model without problems reports no clash.
  have hnone {element : Element} (hmem : element ∈ model.elements) (code : ErrorCode) :
      ¬ ∃ error ∈ model.elementErrors element, error.code = code := by
    rw [elementErrors_eq_nil hclean hmem]
    rintro ⟨error, herror, -⟩
    contradiction
  refine ⟨fun element hmem other hother hname => ?_,
    fun container hmem member hmember other hother hname => ?_,
    fun type hmem property other hproperty hother hname => ?_⟩
  · refine (clashesWith_or element other hname).resolve_left fun hclash => ?_
    exact hnone hmem .duplicateElementName ((helement element hmem).2 ⟨other, hother, hclash⟩)
  · by_contra hclash
    rw [not_or] at hclash
    refine hnone hmem .duplicateMemberName ((hcontainer container).2 ?_)
    exact ⟨member, hmember, other, hother, hclash.1, hname, hclash.2⟩
  · by_contra hne
    refine hnone hmem .duplicatePropertyName ((htype type hmem).2 ?_)
    exact ⟨property, other, hproperty, hother, hne, hname⟩

/-- A description in which names clash in each of the three ways, while two functions share a name
by right, and so do two imports. -/
def rivals : Declared.Description where
  schemas := [{
    namespaceName := "N"
    entityTypes := [
      { name := "Thing", properties := [{ name := "Size", typeName := "Edm.Int32" }] },
      { name := "Tool", baseType := some "N.Thing"
        properties := [{ name := "Size", typeName := "Edm.Int32" }] }]
    actions := [{ name := "Tool" }]
    functions := [
      { name := "Find", returnType := some { typeName := "Edm.Int32" } },
      { name := "Find", parameters := [{ name := "Size", typeName := "Edm.Int32" }]
        returnType := some { typeName := "Edm.Int32" } }]
    containers := [{
      name := "Default"
      entitySets := [{ name := "Find", entityType := "N.Thing" }]
      functionImports := [
        { name := "Find", function := "N.Find" }, { name := "Find", function := "N.Find" }] }] }]

/-- The same description without what clashes. -/
def partners : Declared.Description where
  schemas := [{
    namespaceName := "N"
    functions := [
      { name := "Find", returnType := some { typeName := "Edm.Int32" } },
      { name := "Find", parameters := [{ name := "Size", typeName := "Edm.Int32" }]
        returnType := some { typeName := "Edm.Int32" } }]
    containers := [{
      name := "Default"
      functionImports := [
        { name := "Find", function := "N.Find" }, { name := "Find", function := "N.Find" }] }] }]

/-- The action has the name of a type, the container a set among imports of the same name, and the
type a property that its base type has; two functions and two imports of one name are no clash. -/
theorem clashes_exact_find :
    let model := ofDescription rivals
    let session := (Session.start model).after [.validation]
    let tool : StructuredType :=
      ⟨1, "N", .entity, { name := "Tool", baseType := some "N.Thing"
                          properties := [{ name := "Size", typeName := "Edm.Int32" }] }⟩
    let action : Element := .operation ⟨2, "N", .action, { name := "Tool" }⟩
    let function : Element := .operation
      ⟨3, "N", .function,
        { name := "Find", returnType := some { typeName := "Edm.Int32" } }⟩
    let quiet := (Session.start (ofDescription partners)).after [.validation]
    let rival : Element := .operation
      ⟨0, "N", .function,
        { name := "Find", returnType := some { typeName := "Edm.Int32" } }⟩
    let partner : Element := .operation
      ⟨1, "N", .function,
        { name := "Find", parameters := [{ name := "Size", typeName := "Edm.Int32" }]
          returnType := some { typeName := "Edm.Int32" } }⟩
    (∃ error ∈ session.answer (.errorsOf (.element action)), error.code = .duplicateElementName) ∧
      (¬ ∃ error ∈ session.answer (.errorsOf (.element function)),
        error.code = .duplicateElementName) ∧
      (∃ container, .container container ∈ model.elements ∧
        ∃ error ∈ session.answer (.errorsOf (.element (.container container))),
          error.code = .duplicateMemberName) ∧
      (∃ error ∈ session.answer (.errorsOf (.element (.structured tool))),
        error.code = .duplicatePropertyName) ∧
      quiet.answer .validation = [] ∧ rival ≠ partner ∧ rival.Overloads partner := by
  intro model session tool action function quiet rival partner
  obtain ⟨helement, hcontainer, htype, -⟩ := clashes_exact rivals [.validation]
  obtain ⟨-, -, -, hclean⟩ := clashes_exact partners [.validation]
  have htool : .structured tool ∈ model.elements := by decide +kernel
  have haction : action ∈ model.elements := by decide +kernel
  have hfunction : function ∈ model.elements := by decide +kernel
  have hquiet : quiet.answer .validation = [] := by decide +kernel
  refine ⟨(helement action haction).2 ⟨.structured tool, htool, ?_⟩, ?_, ?_, ?_, hquiet, ?_⟩
  · exact ⟨by decide, rfl, by decide⟩
  · rw [helement function hfunction]
    rintro ⟨other, hother, hclash⟩
    have hnone : ∀ other ∈ model.elements,
        other.fullName ≠ function.fullName ∨ function.Overloads other := by decide +kernel
    rcases hnone other hother with hname | hoverloads
    · exact hname hclash.name
    · exact hclash.apart hoverloads
  · let container : Container := ⟨5, "N", {
      name := "Default"
      entitySets := [{ name := "Find", entityType := "N.Thing" }]
      functionImports := [
        { name := "Find", function := "N.Find" }, { name := "Find", function := "N.Find" }] }⟩
    have hmem : .container container ∈ model.elements := by decide +kernel
    refine ⟨container, hmem, (hcontainer container hmem).2 ?_⟩
    let set : DeclaredSource := ⟨5, .entitySet, 0, "Find", "N.Thing", [], true, {}⟩
    let imp : OperationImport := ⟨5, 0, .function, "Find", "N.Find", none, false, {}⟩
    have hset : .source set ∈ container.members := List.mem_cons_self
    have himp : .imported imp ∈ container.members := List.mem_cons_of_mem _ List.mem_cons_self
    refine ⟨.source set, hset, .imported imp, himp, Member.noConfusion, rfl, ?_⟩
    rintro ⟨operationName, hgroup⟩
    have himported := hgroup _ hset rfl
    contradiction
  · let thing : StructuredType :=
      ⟨0, "N", .entity, { name := "Thing"
                          properties := [{ name := "Size", typeName := "Edm.Int32" }] }⟩
    have hbase : model.baseStructured? tool = some thing := by decide +kernel
    refine (htype tool htool).2 ⟨.structural ⟨0, 0, { name := "Size", typeName := "Edm.Int32" }⟩,
      .structural ⟨1, 0, { name := "Size", typeName := "Edm.Int32" }⟩, ?_, ?_, by decide, rfl⟩
    · exact ⟨thing, .single hbase, List.mem_cons_self⟩
    · exact ⟨tool, .refl, List.mem_cons_self⟩
  · have hapart : rival ≠ partner := by decide
    refine ⟨hapart, ?_⟩
    have hshare := (hclean hquiet).1 rival (by decide +kernel) partner (by decide +kernel) rfl
    exact hshare.resolve_left hapart.symm

end Model
end ResourcePaths
