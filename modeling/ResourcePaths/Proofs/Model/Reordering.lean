import ResourcePaths.Proofs.Model.FullNames
import ResourcePaths.Proofs.Model.Imports

/-!
# The order of operations

The actions and the functions of a schema may be declared in any order.  Another order gives them
other numbers and nothing else: two models of such descriptions have the same elements up to the
numbers of operations, and the same types, sources and containers in every respect.
-/

namespace ResourcePaths

/-! ### Descriptions -/

namespace Declared

/-- The actions and the functions of a schema stand in another order. -/
inductive Schema.Reorders (schema : Schema) : Schema → Prop
  | intro {actions functions : List Operation} (hactions : schema.actions.Perm actions)
      (hfunctions : schema.functions.Perm functions) :
      Reorders schema { schema with actions, functions }

/-- The actions and the functions of each schema stand in another order. -/
structure Description.Reorders (description other : Description) : Prop where
  schemas : List.Forall₂ Schema.Reorders description.schemas other.schemas

end Declared

/-! ### Lists in another order -/

/-- Lists that are the same up to a view both have items, or neither has. -/
theorem exists_cons_or_nil {α : Type} {view : α → α} {items others : List α}
    (h : (items.map view).Perm (others.map view)) :
    (∃ first rest found more, items = first :: rest ∧ others = found :: more) ∨
      items = [] ∧ others = [] := by
  have hlength := h.length_eq
  rw [List.length_map, List.length_map] at hlength
  cases items with
  | nil => exact .inr ⟨rfl, List.length_eq_zero_iff.1 hlength.symm⟩
  | cons first rest =>
      obtain ⟨found, more, rfl⟩ := List.exists_of_length_succ others hlength.symm
      exact .inl ⟨first, rest, found, more, rfl, rfl⟩

/-- A list as long as one of several items has several items. -/
theorem exists_several {α : Type} {first second : α} {more others : List α}
    (h : (first :: second :: more).length = others.length) :
    ∃ found next rest, others = found :: next :: rest := by
  obtain _ | ⟨found, _ | ⟨next, rest⟩⟩ := others
  · contradiction
  · simp at h
  · exact ⟨found, next, rest, rfl⟩

/-- What a view leaves alone keeps the same items up to the view. -/
theorem filter_perm {α : Type} {view : α → α} {items others : List α}
    (h : (items.map view).Perm (others.map view)) (kind : α → Bool)
    (hkind : ∀ item, kind (view item) = kind item) :
    ((items.filter kind).map view).Perm ((others.filter kind).map view) := by
  have hkept := h.filter kind
  simpa only [List.filter_map, Function.comp_def, hkind] using hkept

/-! ### Elements without the numbers of operations -/

/-- The operation without its number. -/
def Operation.unnumbered (operation : Operation) : Operation :=
  { operation with id := 0 }

namespace Element

/-- The element, without its number if it is an operation. -/
def unnumbered : Element → Element
  | operation node => operation node.unnumbered
  | element => element

@[simp]
theorem fullName_unnumbered (element : Element) :
    element.unnumbered.fullName = element.fullName := by
  cases element <;> rfl

@[simp]
theorem operation?_unnumbered (element : Element) :
    element.unnumbered.operation? = element.operation?.map Operation.unnumbered := by
  cases element <;> rfl

@[simp]
theorem type?_unnumbered (element : Element) : element.unnumbered.type? = element.type? := by
  cases element <;> rfl

@[simp]
theorem kind_unnumbered (element : Element) : element.unnumbered.kind = element.kind := by
  cases element <;> rfl

/-- An element that is no operation is the only one that it is without its number. -/
theorem unnumbered_eq_iff {element other : Element} (h : other.operation? = none) :
    element.unnumbered = other ↔ element = other := by
  constructor
  · rintro rfl
    cases element with
    | operation => contradiction
    | structured | enum | definition | term | container => rfl
  · rintro rfl
    cases element with
    | operation => contradiction
    | structured | enum | definition | term | container => rfl

theorem operation?_of_isType {element : Element} (h : element.kind.isType = true) :
    element.operation? = none := by
  cases element with
  | operation node =>
      obtain ⟨id, namespaceName, kind, decl⟩ := node
      cases kind <;> contradiction
  | structured | enum | definition | term | container => rfl

theorem unnumbered_of_isType {element : Element} (h : element.kind.isType = true) :
    element.unnumbered = element :=
  (unnumbered_eq_iff (operation?_of_isType h)).2 rfl

end Element

namespace Model

/-- A model has the elements of another one up to the numbers of operations, the same containers in
the same order, and the same short names. -/
structure Reorders (model other : Model) : Prop where
  indexed : model.Indexed
  other_indexed : other.Indexed
  aliases : other.aliases = model.aliases
  containers : other.containers = model.containers
  elements : (model.elements.map Element.unnumbered).Perm (other.elements.map Element.unnumbered)

/-! ### Models of descriptions -/

/-- The elements with numbers from a first one on. -/
def numberedFrom (first : Nat) (makes : List (ElementId → Element)) : List Element :=
  (makes.zipIdx first).map fun (make, id) => make id

theorem numberedFrom_append (first : Nat) (makes others : List (ElementId → Element)) :
    numberedFrom first (makes ++ others) =
      numberedFrom first makes ++ numberedFrom (first + makes.length) others := by
  rw [numberedFrom, List.zipIdx_append, List.map_append]
  rfl

/-- Wherever the numbers begin, the elements are the same up to the numbers of operations, and the
containers are the same. -/
structure NumberedAlike (makes others : List (ElementId → Element)) : Prop where
  length : makes.length = others.length
  elements : ∀ first, ((numberedFrom first makes).map Element.unnumbered).Perm
    ((numberedFrom first others).map Element.unnumbered)
  containers : ∀ first, (numberedFrom first others).filterMap Element.container? =
    (numberedFrom first makes).filterMap Element.container?

namespace NumberedAlike

theorem refl (makes : List (ElementId → Element)) : NumberedAlike makes makes :=
  ⟨rfl, fun _ => .refl _, fun _ => rfl⟩

theorem append {makes others moreMakes moreOthers : List (ElementId → Element)}
    (h : NumberedAlike makes others) (hmore : NumberedAlike moreMakes moreOthers) :
    NumberedAlike (makes ++ moreMakes) (others ++ moreOthers) := by
  constructor
  · rw [List.length_append, List.length_append, h.length, hmore.length]
  · intro first
    rw [numberedFrom_append, numberedFrom_append, ← h.length, List.map_append, List.map_append]
    exact (h.elements first).append (hmore.elements _)
  · intro first
    rw [numberedFrom_append, numberedFrom_append, ← h.length, List.filterMap_append,
      List.filterMap_append, h.containers, hmore.containers]

/-- Without their numbers, operations are the same in any order. -/
theorem operations {decls others : List Declared.Operation} (h : decls.Perm others)
    (namespaceName : String) (kind : OperationKind) :
    NumberedAlike (decls.map fun decl id => .operation ⟨id, namespaceName, kind, decl⟩)
      (others.map fun decl id => .operation ⟨id, namespaceName, kind, decl⟩) := by
  have hunnumbered (decls : List Declared.Operation) (first : Nat) :
      (numberedFrom first (decls.map fun decl id =>
          .operation ⟨id, namespaceName, kind, decl⟩)).map Element.unnumbered =
        decls.map fun decl => .operation ⟨0, namespaceName, kind, decl⟩ := by
    rw [numberedFrom, List.zipIdx_map, List.map_map, List.map_map]
    have hdecl : (decls.zipIdx first).map Prod.fst = decls := List.zipIdx_map_fst _ _
    conv_rhs => rw [← hdecl, List.map_map]
    rfl
  have hcontainers (decls : List Declared.Operation) (first : Nat) :
      (numberedFrom first (decls.map fun decl id =>
        .operation ⟨id, namespaceName, kind, decl⟩)).filterMap Element.container? = [] := by
    rw [numberedFrom, List.zipIdx_map, List.map_map, List.filterMap_map]
    exact List.filterMap_eq_nil_iff.2 fun _ _ => rfl
  constructor
  · rw [List.length_map, List.length_map, h.length_eq]
  · intro first
    rw [hunnumbered, hunnumbered]
    exact h.map _
  · intro first
    rw [hcontainers, hcontainers]

theorem schema {schema other : Declared.Schema} (h : schema.Reorders other) :
    NumberedAlike schema.elements other.elements := by
  cases h with
  | intro hactions hfunctions =>
      exact ((((NumberedAlike.refl _).append (.operations hactions _ _)).append
        (.operations hfunctions _ _)).append (.refl _)).append (.refl _)

theorem schemas {schemas others : List Declared.Schema}
    (h : List.Forall₂ Declared.Schema.Reorders schemas others) :
    NumberedAlike (schemas.flatMap Declared.Schema.elements)
      (others.flatMap Declared.Schema.elements) := by
  induction h with
  | nil => exact .refl _
  | cons hfirst _ ih => exact (NumberedAlike.schema hfirst).append ih

end NumberedAlike

theorem aliases_of_reorders {schemas others : List Declared.Schema}
    (h : List.Forall₂ Declared.Schema.Reorders schemas others) :
    (others.filterMap fun schema =>
        schema.shortName.map fun short => (short, schema.namespaceName)) =
      schemas.filterMap fun schema =>
        schema.shortName.map fun short => (short, schema.namespaceName) := by
  induction h with
  | nil => rfl
  | @cons schema other _ _ hfirst _ ih =>
      obtain ⟨hactions, hfunctions⟩ := hfirst
      rw [List.filterMap_cons, List.filterMap_cons, ih]

/-- The models of descriptions that differ in the order of operations have the same elements up to
the numbers of operations. -/
theorem reorders_ofDescription {description other : Declared.Description}
    (h : description.Reorders other) :
    (ofDescription description).Reorders (ofDescription other) where
  indexed := indexed_ofDescription description
  other_indexed := indexed_ofDescription other
  aliases := aliases_of_reorders h.schemas
  containers := (NumberedAlike.schemas h.schemas).containers 0
  elements := (NumberedAlike.schemas h.schemas).elements 0

namespace Reorders

variable {model other : Model} (h : model.Reorders other)

include h

/-! ### Names -/

theorem normalize_eq (name : String) : other.normalize name = model.normalize name := by
  simp only [normalize, aliased?, h.aliases]

theorem length_elements : other.elements.length = model.elements.length := by
  have := h.elements.length_eq
  rw [List.length_map, List.length_map] at this
  exact this.symm

/-- Elements that are no operations are elements of both models. -/
theorem mem_elements_iff {element : Element} (hnot : element.operation? = none) :
    element ∈ other.elements ↔ element ∈ model.elements := by
  have hmem (model : Model) :
      element ∈ model.elements.map Element.unnumbered ↔ element ∈ model.elements := by
    simp only [List.mem_map, Element.unnumbered_eq_iff hnot, exists_eq_right]
  rw [← hmem model, ← hmem other, h.elements.mem_iff]

theorem element?_eq_some_iff {element : Element} (hnot : element.operation? = none)
    (id : ElementId) : other.element? id = some element ↔ model.element? id = some element := by
  have hfound {model : Model} (hindexed : model.Indexed) :
      model.element? id = some element ↔ element ∈ model.elements ∧ element.id = id := by
    constructor
    · intro hsome
      exact ⟨List.mem_of_getElem? hsome, hindexed.numbered id element hsome⟩
    · rintro ⟨hmem, rfl⟩
      exact hindexed.element?_id hmem
  rw [hfound h.indexed, hfound h.other_indexed, h.mem_elements_iff hnot]

/-- What only elements that are no operations have is had by the same numbers. -/
theorem bind_element?_eq {α : Type} {select : Element → Option α}
    (hselect : ∀ operation, select (.operation operation) = none) (id : ElementId) :
    (other.element? id).bind select = (model.element? id).bind select := by
  have hnot {element : Element} {found : α} (hfound : select element = some found) :
      element.operation? = none := by
    cases element with
    | operation node =>
        rw [hselect] at hfound
        contradiction
    | structured | enum | definition | term | container => rfl
  refine Option.ext fun found => ?_
  rw [Option.bind_eq_some_iff, Option.bind_eq_some_iff]
  refine exists_congr fun element => and_congr_left fun hfound => ?_
  exact h.element?_eq_some_iff (hnot hfound) id

theorem structured?_eq (id : ElementId) : other.structured? id = model.structured? id :=
  h.bind_element?_eq (fun _ => rfl) id

theorem container?_eq (id : ElementId) : other.container? id = model.container? id :=
  h.bind_element?_eq (fun _ => rfl) id

/-- A name finds the same elements up to the numbers of operations. -/
theorem find_perm (name : String) (ignoreCase : Bool) :
    ((model.find name ignoreCase).map Element.unnumbered).Perm
      ((other.find name ignoreCase).map Element.unnumbered) := by
  rw [h.indexed.find_eq_matching, h.other_indexed.find_eq_matching, h.normalize_eq]
  generalize model.normalize (Text.trimmed name) = full
  have hfilter (kind : String → Bool) :
      ((model.elements.filter fun element => kind element.fullName).map Element.unnumbered).Perm
        ((other.elements.filter fun element => kind element.fullName).map Element.unnumbered) :=
    filter_perm h.elements _ fun element => congrArg kind element.fullName_unnumbered
  have hexact := hfilter fun fullName => fullName = full
  have halike := hfilter fun fullName => Text.alike fullName full
  unfold matching
  -- Both models have an exact match, or neither has one.
  obtain ⟨first, rest, found, more, hfound, hothers⟩ | ⟨hfound, hothers⟩ :=
    exists_cons_or_nil hexact
  · rw [hfound, hothers] at hexact
    rw [hfound, hothers]
    exact hexact
  · rw [hfound, hothers]
    cases ignoreCase with
    | true => exact halike
    | false => exact .refl _

/-- A name stands for the same types. -/
theorem types_perm (name : String) (ignoreCase : Bool) :
    ((model.find name ignoreCase).filterMap Element.type?).Perm
      ((other.find name ignoreCase).filterMap Element.type?) := by
  have hfound := (h.find_perm name ignoreCase).filterMap Element.type?
  simpa only [List.filterMap_map, Function.comp_def, Element.type?_unnumbered] using hfound

/-- A name stands for the same operations up to their numbers. -/
theorem operations_perm (name : String) (ignoreCase : Bool) :
    (((model.find name ignoreCase).filterMap Element.operation?).map Operation.unnumbered).Perm
      (((other.find name ignoreCase).filterMap Element.operation?).map Operation.unnumbered) := by
  have hfound := (h.find_perm name ignoreCase).filterMap Element.operation?
  simpa only [List.filterMap_map, Function.comp_def, Element.operation?_unnumbered,
    List.map_filterMap] using hfound

theorem all_operations_perm :
    (model.operations.map Operation.unnumbered).Perm
      (other.operations.map Operation.unnumbered) := by
  have hfound := h.elements.filterMap Element.operation?
  simpa only [List.filterMap_map, Function.comp_def, Element.operation?_unnumbered,
    operations, List.map_filterMap] using hfound

/-- A name has the same numbers of types. -/
theorem typeIdsOf_perm (name : String) : (model.typeIdsOf name).Perm (other.typeIdsOf name) := by
  rw [h.indexed.typeIdsOf_eq, h.other_indexed.typeIdsOf_eq, h.normalize_eq]
  generalize model.normalize (Text.trimmed name) = full
  -- Types keep their numbers.
  have hids (elements : List Element) :
      (((elements.map Element.unnumbered).filter fun element => element.fullName = full).filter
        fun element => element.kind.isType).map Element.id =
      ((elements.filter fun element => element.fullName = full).filter
        fun element => element.kind.isType).map Element.id := by
    simp only [List.filter_map, List.map_map, Function.comp_def, Element.fullName_unnumbered,
      Element.kind_unnumbered]
    refine List.map_congr_left fun element hmem => ?_
    rw [Element.unnumbered_of_isType (List.mem_filter.1 hmem).2]
  rw [← hids model.elements, ← hids other.elements]
  exact ((h.elements.filter _).filter _).map _

end Reorders

end Model

/-! ### References -/

/-- The elements that a reference leads to are types. -/
def TypeReference.IsToTypes (model : Model) : TypeReference → Prop
  | element id => ∃ element, model.element? id = some element ∧ element.kind.isType = true
  | collection item => item.IsToTypes model
  | _ => True

namespace Model

theorem isToTypes_resolve (model : Model) (name : String) (location : Declared.Location) :
    (model.resolve name location).value.IsToTypes model := by
  have hwrap (layers : Nat) {reference : TypeReference} (h : reference.IsToTypes model) :
      (TypeReference.wrap layers reference).IsToTypes model := by
    induction layers with
    | zero => exact h
    | succ layers ih => exact ih
  refine hwrap _ ?_
  unfold resolveNamed
  split
  · trivial
  · split
    · trivial
    · split
      · rename_i id hids
        exact isType_of_mem_typeIdsOf (hids ▸ List.mem_singleton_self id)
      · trivial
      · trivial

theorem isToTypes_resolveStructured (model : Model) (name : String) (kind : StructuredKind)
    (location : Declared.Location) (use : StructuredUse) :
    (model.resolveStructured name kind location use).value.IsToTypes model := by
  have hresolve := model.isToTypes_resolve name location
  simp only [resolveStructured]
  split
  · split
    · split
      · exact hresolve
      · trivial
    · trivial
  · trivial
  · trivial

theorem isToTypes_resolveTarget (model : Model) (property : NavigationProperty) :
    (property.resolveTarget model).value.IsToTypes model := by
  rw [NavigationProperty.resolveTarget]
  split
  · exact model.isToTypes_resolveStructured _ _ _ _
  · exact model.isToTypes_resolveStructured _ _ _ _

namespace Reorders

variable {model other : Model} (h : model.Reorders other)

include h

theorem resolve_eq (name : String) (location : Declared.Location) :
    other.resolve name location = model.resolve name location := by
  have hnamed (name : String) :
      other.resolveNamed name location = model.resolveNamed name location := by
    have hids := h.typeIdsOf_perm name
    unfold resolveNamed
    generalize model.typeIdsOf name = ids at hids
    generalize other.typeIdsOf name = others at hids
    -- A single number is the same in both models, and so is the count of several ones.
    cases ids with
    | nil => rw [hids.nil_eq]
    | cons first rest =>
        cases rest with
        | nil => rw [List.perm_singleton.1 hids.symm]
        | cons second more =>
            have hlength := hids.length_eq
            obtain ⟨found, next, last, rfl⟩ := exists_several hlength
            simp only [hlength]
  simp only [resolve, hnamed]

theorem resolveStructured_eq (name : String) (kind : StructuredKind)
    (location : Declared.Location) (use : StructuredUse) :
    other.resolveStructured name kind location use =
      model.resolveStructured name kind location use := by
  simp only [resolveStructured, h.resolve_eq, h.structured?_eq]

theorem resolveTarget_eq (property : NavigationProperty) :
    property.resolveTarget other = property.resolveTarget model := by
  simp only [NavigationProperty.resolveTarget, h.resolveStructured_eq]

/-- A reference to types leads to the same type. -/
theorem follow_eq {reference : TypeReference} (htypes : reference.IsToTypes model) :
    reference.follow (some other) = reference.follow (some model) := by
  induction reference with
  | element id =>
      obtain ⟨element, helement, htype⟩ := htypes
      have hother := (h.element?_eq_some_iff (Element.operation?_of_isType htype) id).2 helement
      simp only [TypeReference.follow, Option.bind_some, helement, hother]
  | collection item ih => exact congrArg ModelType.collection (ih htypes)
  | primitive | untyped | bad => rfl

/-! ### Types -/

theorem resolved_follow_eq (name : String) (location : Declared.Location) :
    (other.resolve name location).value.follow (some other) =
      (model.resolve name location).value.follow (some model) := by
  rw [h.resolve_eq, h.follow_eq (model.isToTypes_resolve _ _)]

theorem resolvedStructured_follow_eq (name : String) (kind : StructuredKind)
    (location : Declared.Location) (use : StructuredUse) :
    (other.resolveStructured name kind location use).value.follow (some other) =
      (model.resolveStructured name kind location use).value.follow (some model) := by
  rw [h.resolveStructured_eq, h.follow_eq (model.isToTypes_resolveStructured _ _ _ _)]

theorem typeOf_eq (property : Property) : other.typeOf property = model.typeOf property := by
  cases property with
  | structural node => exact h.resolved_follow_eq _ _
  | navigation node =>
      show (node.resolveTarget other).value.follow (some other) =
        (node.resolveTarget model).value.follow (some model)
      rw [h.resolveTarget_eq, h.follow_eq (model.isToTypes_resolveTarget node)]

theorem parameterType_eq (parameter : Parameter) :
    other.parameterType parameter = model.parameterType parameter :=
  h.resolved_follow_eq _ _

theorem resultType?_eq (operation : Operation) :
    other.resultType? operation = model.resultType? operation := by
  simp only [resultType?, Operation.resultReferenceIn]
  cases operation.decl.returnType with
  | none => rfl
  | some result => exact congrArg some (h.resolved_follow_eq _ _)

theorem baseStructured?_eq (type : StructuredType) :
    other.baseStructured? type = model.baseStructured? type := by
  simp only [baseStructured?, baseType?, StructuredType.baseReferenceIn]
  cases type.decl.baseType with
  | none => rfl
  | some name =>
      exact congrArg ModelType.structured? (h.resolvedStructured_follow_eq _ _ _ _)

theorem climb_eq (unmet : List ElementId) (start : Option StructuredType) :
    other.climb unmet start = model.climb unmet start := by
  fun_induction Model.climb model unmet start with
  | case1 unmet => rw [climb]
  | case2 unmet type hunmet rest cyclic hrest ih =>
      rw [climb, if_pos hunmet, h.baseStructured?_eq, ih, hrest]
  | case3 unmet type hmet => rw [climb, if_neg hmet]

theorem ancestors_eq (type : StructuredType) : other.ancestors type = model.ancestors type := by
  simp only [ancestors, walk, others, h.length_elements, h.baseStructured?_eq, h.climb_eq]

theorem inherits_eq (type base : StructuredType) :
    other.inherits type base = model.inherits type base := by
  simp only [inherits, h.ancestors_eq]

theorem properties_eq (type : StructuredType) :
    other.properties type = model.properties type := by
  simp only [properties, h.ancestors_eq]

theorem findProperty?_eq (type : StructuredType) (name : String) (ignoreCase : Bool) :
    other.findProperty? type name ignoreCase = model.findProperty? type name ignoreCase := by
  simp only [findProperty?, h.properties_eq]

theorem key_eq (type : StructuredType) : other.key type = model.key type := by
  simp only [key, keyNames?, h.properties_eq, h.ancestors_eq]

theorem isOpen_eq (type : ModelType) : other.isOpen type = model.isOpen type := by
  simp only [isOpen, isOpenStructured, h.ancestors_eq]

theorem isAssignable_eq (target source : ModelType) :
    other.isAssignable target source = model.isAssignable target source := by
  fun_induction Model.isAssignable model target source with
  | case5 target source => rw [isAssignable, h.inherits_eq]
  | case8 target source ih => rw [isAssignable, ih]
  | case1 | case2 | case3 | case4 | case6 | case7 | case9 =>
      rw [isAssignable]
      all_goals assumption

/-! ### Sources -/

theorem targetEntity?_eq (property : NavigationProperty) :
    other.targetEntity? property = model.targetEntity? property := by
  simp only [targetEntity?, h.typeOf_eq]

theorem sourceType_eq (source : NavigationSource) :
    other.sourceType source = model.sourceType source := by
  cases source with
  | declared node =>
      exact congrArg node.typeWith (h.resolvedStructured_follow_eq _ _ _ _)
  | unknown parent property => exact h.typeOf_eq _

theorem sourceEntity?_eq (source : NavigationSource) :
    other.sourceEntity? source = model.sourceEntity? source := by
  cases source with
  | declared node => exact congrArg ModelType.entity? (h.resolvedStructured_follow_eq _ _ _ _)
  | unknown parent property => exact h.targetEntity?_eq property

theorem bindingTarget?_eq (own : ElementId) (target : String) :
    other.bindingTarget? own target = model.bindingTarget? own target := by
  simp only [bindingTarget?, bindingContainer?, h.containers, h.container?_eq, h.normalize_eq]

theorem navigate_eq (source : NavigationSource) (property : NavigationProperty) :
    other.navigate source property = model.navigate source property := by
  have hfits (path : String) (property : NavigationProperty) :
      bindingFits (some other) path property = bindingFits (some model) path property := by
    simp only [bindingFits, Option.bind_some, h.structured?_eq]
  have htarget : other.navigationTarget? source property =
      model.navigationTarget? source property := by
    cases source with
    | declared node =>
        simp only [navigationTarget?, DeclaredSource.bindingsIn, DeclaredSource.resolveBindings,
          bindingSource?, hfits, h.bindingTarget?_eq, h.container?_eq, Option.bind_eq_bind,
          Option.bind_some]
    | unknown parent property => rfl
  simp only [navigate, htarget]

theorem importedSet?_eq (imp : OperationImport) :
    other.importedSet? imp = model.importedSet? imp := by
  simp only [importedSet?, OperationImport.entitySetIn?, h.container?_eq, Option.bind_eq_bind,
    Option.bind_some]

theorem firstContainer?_eq : other.firstContainer? = model.firstContainer? := by
  have hfirst (model : Model) : model.firstContainer? = model.containers.head? :=
    List.head?_filterMap.symm
  rw [hfirst, hfirst, h.containers]

end Reorders

end Model

/-! ### Operations -/

/-- The parameter without the number of its operation. -/
def Parameter.unnumbered (parameter : Parameter) : Parameter :=
  { parameter with operation := 0 }

namespace Operation

theorem parameters_unnumbered (operation : Operation) :
    operation.unnumbered.parameters = operation.parameters.map Parameter.unnumbered := by
  rw [parameters, parameters, List.map_map]
  rfl

theorem bindingParameter?_unnumbered (operation : Operation) :
    operation.unnumbered.bindingParameter? =
      operation.bindingParameter?.map Parameter.unnumbered := by
  rw [bindingParameter?, bindingParameter?, parameters_unnumbered, List.head?_map]
  show (if operation.decl.isBound then _ else none) = _
  split <;> rfl

theorem callParameters_unnumbered (operation : Operation) :
    operation.unnumbered.callParameters = operation.callParameters.map Parameter.unnumbered := by
  rw [callParameters, callParameters, parameters_unnumbered, ← List.map_drop]
  show (if operation.decl.isBound then _ else _) = _
  split <;> rfl

end Operation

namespace Model

variable {model other : Model}

theorem isBoundTo_unnumbered (model : Model) (type : ModelType) (operation : Operation) :
    model.isBoundTo type operation.unnumbered = model.isBoundTo type operation := by
  rw [isBoundTo, isBoundTo, operation.bindingParameter?_unnumbered, Option.any_map]
  rfl

namespace Reorders

variable (h : model.Reorders other)

include h

theorem isBoundTo_eq (type : ModelType) (operation : Operation) :
    other.isBoundTo type operation = model.isBoundTo type operation := by
  simp only [isBoundTo, h.parameterType_eq, h.isAssignable_eq]

/-- The operations bound to a type are the same up to their numbers. -/
theorem findBoundOperations_perm (type : ModelType) :
    ((model.findBoundOperations type).map Operation.unnumbered).Perm
      ((other.findBoundOperations type).map Operation.unnumbered) := by
  rw [findBoundOperations, findBoundOperations, funext (h.isBoundTo_eq type)]
  exact filter_perm h.all_operations_perm _ (model.isBoundTo_unnumbered type)

/-- The operations that an import exposes are the same up to their numbers. -/
theorem importedOperations_perm (imp : OperationImport) :
    ((model.importedOperations imp).map Operation.unnumbered).Perm
      ((other.importedOperations imp).map Operation.unnumbered) := by
  rw [h.indexed.importedOperations_eq, h.other_indexed.importedOperations_eq]
  exact filter_perm (h.operations_perm imp.operationName false) _ fun _ => rfl

end Reorders

end Model
end ResourcePaths
