import ResourcePaths.Proofs.Binding.Typing

/-!
# Element types

A segment has the type of its values one by one, and beside it how many values there are.  Most of
what a path goes through is at most a collection, so that the type itself is none: a source and a
navigation property lead to entities, and a name in a path is never that of a collection.  A
structural property and the result of an operation have any type that can be written.  One layer of
that type turns into the number of values, and all further layers stay in the type.
-/

namespace ResourcePaths

/-! ### Layers -/

/-- How many collections a name of a type wraps around another one. -/
def Name.layers (name : String) : Nat :=
  (peel name.toList).1

/-- How many collections are around what is in them. -/
def ModelType.layers : ModelType → Nat
  | collection item => item.layers + 1
  | _ => 0

theorem ModelType.isCollection_iff (type : ModelType) :
    type.isCollection = true ↔ 0 < type.layers := by
  cases type with
  | collection item => simp [isCollection, layers]
  | primitive | structured | enum | definition | untyped | bad => simp [isCollection, layers]

/-- One layer tells the number of the values. -/
theorem ModelType.layers_split (type : ModelType) : type.split.1.layers = type.layers - 1 := by
  cases type <;> rfl

/-- A type with a layer is told again by its items and their number. -/
theorem ModelType.split_of_isCollection {type : ModelType} (h : type.isCollection = true) :
    type.split.2 = .collection ∧ type = .collection type.split.1 := by
  cases type with
  | collection item => exact ⟨rfl, rfl⟩
  | primitive | structured | enum | definition | untyped | bad => contradiction

namespace TypeReference

/-- How many collections a reference has around what is in them. -/
def layers : TypeReference → Nat
  | collection item => item.layers + 1
  | _ => 0

theorem layers_ofElement (element : Option Element) : (ofElement element).layers = 0 := by
  cases element with
  | none => rfl
  | some element => cases element <;> rfl

theorem layers_follow (context : Option Model) (reference : TypeReference) :
    (reference.follow context).layers = reference.layers := by
  induction reference with
  | collection item ih =>
      rw [follow, ModelType.layers, layers, ih]
  | element id => exact layers_ofElement _
  | primitive | untyped | bad => rfl

theorem layers_wrap (count : Nat) (reference : TypeReference) :
    (wrap count reference).layers = count + reference.layers := by
  induction count with
  | zero => rw [wrap, Nat.zero_add]
  | succ count ih => rw [wrap, layers, ih, Nat.add_right_comm]

end TypeReference

namespace Model

variable (model : Model)

theorem layers_resolveNamed (name : String) (location : Declared.Location) :
    (model.resolveNamed name location).value.layers = 0 := by
  unfold resolveNamed
  split
  · rfl
  · split
    · rfl
    · split <;> rfl

/-- A name refers to a type with the layers that it is written with. -/
theorem layers_resolve (name : String) (location : Declared.Location) :
    (model.resolve name location).value.layers = Name.layers name := by
  simp only [resolve, Resolved.map, TypeReference.layers_wrap, layers_resolveNamed, Nat.add_zero]
  rfl

/-- Where a structured type is asked for, no collection is found. -/
theorem layers_resolveStructured (name : String) (kind : StructuredKind)
    (location : Declared.Location) (use : StructuredUse) :
    (model.resolveStructured name kind location use).value.layers = 0 := by
  simp only [resolveStructured]
  split
  · rename_i id hvalue
    split
    · split
      · rw [hvalue]
        rfl
      · rfl
    · rfl
  · rfl
  · rfl

theorem layers_typeOf_structural (property : StructuralProperty) :
    (model.typeOf (.structural property)).layers = Name.layers property.decl.typeName := by
  rw [typeOf, TypeReference.layers_follow]
  exact model.layers_resolve _ _

theorem layers_resultType? (operation : Operation) :
    (model.resultType? operation).map ModelType.layers =
      operation.decl.returnType.map fun result => Name.layers result.typeName := by
  rw [resultType?, Operation.resultReferenceIn]
  cases operation.decl.returnType with
  | none => rfl
  | some result =>
      refine congrArg some ?_
      rw [TypeReference.layers_follow]
      exact model.layers_resolve _ _

/-- A navigation property leads to entities, and to no collections of them. -/
theorem layers_typeOf_navigation (property : NavigationProperty) :
    (model.typeOf (.navigation property)).layers ≤ 1 := by
  rw [typeOf, TypeReference.layers_follow]
  show (property.resolveTarget model).value.layers ≤ 1
  unfold NavigationProperty.resolveTarget
  split
  · exact Nat.succ_le_succ (Nat.le_of_eq (model.layers_resolveStructured _ _ _ _))
  · rw [model.layers_resolveStructured]
    exact Nat.zero_le 1

theorem layers_sourceType_declared (source : DeclaredSource) :
    (model.sourceType (.declared source)).layers ≤ 1 := by
  have hentity :
      ((source.referenceIn (some model)).value.follow (some model)).layers = 0 := by
    rw [TypeReference.layers_follow]
    exact model.layers_resolveStructured _ _ _ _
  show (source.typeWith _).layers ≤ 1
  unfold DeclaredSource.typeWith
  split
  · exact Nat.succ_le_succ (Nat.le_of_eq hentity)
  · rw [hentity]
    exact Nat.zero_le 1

/-- A name in a path never stands for a collection. -/
theorem layers_of_mem_typesNamed {ignoreCase : Bool} {name : String} {type : ModelType}
    (h : type ∈ model.typesNamed ignoreCase name) : type.layers = 0 := by
  rcases mem_typesNamed h with ⟨primitive, rfl⟩ | ⟨element, -, htype⟩
  · rfl
  · cases element with
    | structured | enum | definition =>
        obtain rfl := Option.some.inj htype
        rfl
    | operation | term | container => contradiction

end Model

/-! ### Segments -/

namespace SegmentKind

/-- The name of the type that is written where a structural property or a called operation is
declared. -/
def typeName? : SegmentKind → Option String
  | property node => some node.decl.typeName
  | operation called _ | imported _ called _ =>
    called.decl.returnType.map fun result => result.typeName
  | _ => none

/-- The layers of that type; none where no such name is written. -/
def declaredLayers (kind : SegmentKind) : Nat :=
  (kind.typeName?.map Name.layers).getD 0

end SegmentKind

namespace Binder

variable {binder : Binder} {token : Token} {segment : Segment}

/-- The type with the name that a structural property or a called operation is declared with. -/
def declaredType? (binder : Binder) : SegmentKind → Option ModelType
  | .property property => some (binder.model.typeOf (.structural property))
  | .operation operation _ | .imported _ operation _ => binder.model.resultType? operation
  | _ => none

/-- A segment has one layer less than what it is declared with, and nothing is lost of more than
one. -/
structure TypedAsDeclared (binder : Binder) (segment : Segment) : Prop where
  layers : ∀ type ∈ segment.type, type.layers = segment.kind.declaredLayers - 1
  nested : 2 ≤ segment.kind.declaredLayers → segment.cardinality = .collection ∧
    segment.fullType = binder.declaredType? segment.kind

/-- A segment whose type is that of the items, where its kind is declared with the type. -/
theorem typedAsDeclared_of_split {type : ModelType} (htype : segment.type = some type.split.1)
    (hlayers : segment.kind.declaredLayers = type.layers)
    (hdeclared : binder.declaredType? segment.kind = some type)
    (hcardinality : type.isCollection = true → segment.cardinality = .collection) :
    binder.TypedAsDeclared segment := by
  constructor
  · intro item hitem
    rw [htype] at hitem
    obtain rfl := Option.some.inj hitem
    rw [ModelType.layers_split, hlayers]
  · intro hnested
    have hcollection : type.isCollection = true := (ModelType.isCollection_iff type).2 (by omega)
    obtain ⟨-, heq⟩ := ModelType.split_of_isCollection hcollection
    refine ⟨hcardinality hcollection, ?_⟩
    rw [hdeclared, Segment.fullType, Place.fullType, Segment.place, htype, hcardinality hcollection,
      Option.map_some, Cardinality.wrap, ← heq]

/-- A segment whose kind is declared without a type, and whose own type has no layers. -/
theorem typedAsDeclared_plain (hname : segment.kind.typeName? = none)
    (htype : ∀ type ∈ segment.type, type.layers = 0) : binder.TypedAsDeclared segment := by
  have hlayers : segment.kind.declaredLayers = 0 := by
    rw [SegmentKind.declaredLayers, hname]
    rfl
  refine ⟨fun type hmem => ?_, fun hnested => ?_⟩
  · rw [hlayers]
    exact htype type hmem
  · rw [hlayers] at hnested
    contradiction

theorem typedAsDeclared_callSegment {identifier : String} {kind : SegmentKind}
    {operation : Operation} {source : Option NavigationSource}
    (hname : kind.typeName? = operation.decl.returnType.map fun result => result.typeName)
    (htype : binder.declaredType? kind = binder.model.resultType? operation) :
    binder.TypedAsDeclared (binder.callSegment identifier kind operation source) := by
  have hlayers : kind.declaredLayers =
      ((binder.model.resultType? operation).map ModelType.layers).getD 0 := by
    rw [SegmentKind.declaredLayers, hname, Option.map_map, Model.layers_resultType?]
    rfl
  rw [callSegment]
  cases hresult : binder.model.resultType? operation with
  | none =>
      rw [hresult] at hlayers
      refine ⟨fun type htype => by contradiction, fun hnested => ?_⟩
      rw [show kind.declaredLayers = 0 from hlayers] at hnested
      contradiction
  | some type =>
      rw [hresult] at hlayers htype
      exact typedAsDeclared_of_split rfl hlayers htype
        fun hcollection => (ModelType.split_of_isCollection hcollection).1

theorem layers_split_of_le {type : ModelType} (h : type.layers ≤ 1) : type.split.1.layers = 0 := by
  rw [ModelType.layers_split]
  exact Nat.sub_eq_zero_of_le h

theorem typedAsDeclared_of_follows {place : Place} (h : Follows binder token place segment) :
    binder.TypedAsDeclared segment := by
  cases h with
  | @navigation _ property _ _ _ htype =>
      apply typedAsDeclared_plain rfl
      rintro _ ⟨rfl⟩
      subst htype
      exact layers_split_of_le (binder.model.layers_typeOf_navigation property)
  | @property _ property type _ _ htype =>
      have hlayers : (SegmentKind.property property).declaredLayers = type.layers := by
        rw [← htype, Model.layers_typeOf_structural]
        rfl
      exact typedAsDeclared_of_split rfl hlayers (congrArg some htype)
        fun hcollection => if_pos hcollection
  | cast _ hnamed _ =>
      apply typedAsDeclared_plain rfl
      rintro _ ⟨rfl⟩
      apply binder.model.layers_of_mem_typesNamed
      rw [hnamed]
      exact List.mem_singleton_self _
  | call => exact typedAsDeclared_callSegment rfl rfl
  | undeclared =>
      apply typedAsDeclared_plain rfl
      rintro _ ⟨rfl⟩
      rfl

theorem typedAsDeclared_of_starts (h : Starts binder token segment) :
    binder.TypedAsDeclared segment := by
  cases h with
  | @source _ source _ _ =>
      apply typedAsDeclared_plain rfl
      rintro _ ⟨rfl⟩
      exact layers_split_of_le (binder.model.layers_sourceType_declared source)
  | imported | unbound => exact typedAsDeclared_callSegment rfl rfl

theorem typedAsDeclared_of_extends {start : Option Place} (h : Extends binder token start segment) :
    binder.TypedAsDeclared segment := by
  cases h with
  | front hstarts => exact typedAsDeclared_of_starts hstarts
  | behind hfollows => exact typedAsDeclared_of_follows hfollows

/-- A key has the type of an entity. -/
theorem typedAsDeclared_of_keyFollows {key : Segment} (h : KeyFollows segment key) :
    binder.TypedAsDeclared key := by
  obtain ⟨entity, htype, -⟩ := h.entities
  obtain ⟨values, rfl⟩ := h.picked
  apply typedAsDeclared_plain rfl
  intro type hmem
  obtain rfl : ModelType.structured entity = type := Option.some.inj (htype.symm.trans hmem)
  rfl

/-! ### Paths -/

theorem typedAsDeclared_of_wellTyped {start : Option Place} {tokens : List Token}
    {segments : List Segment} (h : WellTyped binder start tokens segments) :
    ∀ segment ∈ segments, binder.TypedAsDeclared segment := by
  induction h with
  | nil => exact fun segment hsegment => by contradiction
  | bare hextends _ _ _ ih =>
      exact List.forall_mem_cons.2 ⟨typedAsDeclared_of_extends hextends, ih⟩
  | keyed hextends _ _ _ hkey _ ih =>
      exact List.forall_mem_cons.2 ⟨typedAsDeclared_of_extends hextends,
        List.forall_mem_cons.2 ⟨typedAsDeclared_of_keyFollows hkey, ih⟩⟩

/-- The type of a segment is no collection, unless the segment is a structural property, or calls an
operation, whose type is declared as a collection of collections; such a segment has many values,
one layer of the declared type is theirs, and all together they have the declared type. -/
theorem elementType_of_bind (binder : Binder) {chain : Chain} {path : ResourcePath}
    (h : binder.bind chain = .ok path ∨ ∃ source, binder.bindFrom source chain = .ok path) :
    ∀ segment ∈ path.segments, ∀ type, segment.type = some type →
      (segment.fullType =
        match segment.cardinality with
        | .collection => some (.collection type)
        | .single => some type) ∧
      (segment.kind.declaredLayers ≤ 1 → type.isCollection = false) ∧
      (2 ≤ segment.kind.declaredLayers → segment.cardinality = .collection ∧
        segment.fullType = binder.declaredType? segment.kind ∧
        type.layers + 1 = segment.kind.declaredLayers) := by
  intro segment hsegment type htype
  obtain ⟨start, hbind⟩ : ∃ start, binder.bindChain start chain.tokens = .ok path := by
    rcases h with hbind | ⟨source, hbind⟩
    · exact ⟨_, hbind⟩
    · exact ⟨_, hbind⟩
  obtain ⟨-, -, -, hruns⟩ := bindChain_eq_ok_iff.1 hbind
  obtain ⟨hlayers, hnested⟩ :=
    typedAsDeclared_of_wellTyped (wellTyped_of_runs hruns) segment hsegment
  replace hlayers := hlayers type htype
  refine ⟨?_, fun hfew => ?_, fun hmany => ?_⟩
  · simp only [Segment.fullType, Place.fullType, Segment.place, htype, Option.map_some]
    cases segment.cardinality <;> rfl
  · rw [← Bool.not_eq_true, ModelType.isCollection_iff, hlayers]
    omega
  · obtain ⟨hcardinality, hfull⟩ := hnested hmany
    exact ⟨hcardinality, hfull, by omega⟩

/-- Sheets with the numbers of a table, row by row. -/
def tables : Declared.Description where
  schemas := [{
    namespaceName := "N"
    entityTypes := [{
      name := "Sheet", key := some ["Id"]
      properties := [
        { name := "Id", typeName := "Edm.Int32" },
        { name := "Rows", typeName := "Collection(Collection(Edm.Int32))" }] }]
    containers := [{
      name := "Default", entitySets := [{ name := "Sheets", entityType := "N.Sheet" }] }] }]

/-- The rows of a table are many, and the numbers of each row are what it is declared with less one
layer. -/
theorem elementType_of_bind_rows :
    let binder : Binder := .ofModel (.ofDescription tables) {}
    ∃ path segment type,
      binder.bind (.plain "Sheets" [⟨none, "1"⟩] (.plain "Rows" [] .empty)) = .ok path ∧
      segment ∈ path.segments ∧ segment.type = some type ∧ segment.kind.declaredLayers = 2 ∧
      segment.fullType = some (.collection type) ∧
      segment.fullType = binder.declaredType? segment.kind ∧ type.layers = 1 := by
  intro binder
  let chain : Chain := .plain "Sheets" [⟨none, "1"⟩] (.plain "Rows" [] .empty)
  have hsome : (binder.bind chain).toOption.any (fun path => path.segments.any fun segment =>
      segment.type.isSome && segment.kind.declaredLayers = 2) = true := by decide +kernel
  obtain ⟨path, hpath, hany⟩ := (Option.any_eq_true _ _).1 hsome
  obtain ⟨segment, hsegment, hholds⟩ := List.any_eq_true.1 hany
  obtain ⟨hisSome, hdeclared⟩ := Bool.and_eq_true_iff.1 hholds
  obtain ⟨type, htype⟩ := Option.isSome_iff_exists.1 hisSome
  replace hdeclared := of_decide_eq_true hdeclared
  have hbind := Outcome.eq_ok_of_toOption hpath
  obtain ⟨hfull, -, hnested⟩ := elementType_of_bind binder (.inl hbind) segment hsegment type htype
  obtain ⟨hcardinality, hwhole, hlayers⟩ := hnested (Nat.le_of_eq hdeclared.symm)
  rw [hcardinality] at hfull
  rw [hdeclared] at hlayers
  exact ⟨path, segment, type, hbind, hsegment, htype, hdeclared, hfull, hwhole,
    Nat.succ.inj hlayers⟩

/-- The numbers of a row are a collection themselves, and nothing is wrong with the model. -/
theorem not_elementType_of_bind :
    ¬ ∀ (binder : Binder) (chain : Chain) (path : ResourcePath), binder.model.validate = [] →
      binder.bind chain = .ok path → ∀ segment ∈ path.segments, ∀ type, segment.type = some type →
        type.isCollection = false := by
  intro hall
  let binder : Binder := .ofModel (.ofDescription tables) {}
  let chain : Chain := .plain "Sheets" [⟨none, "1"⟩] (.plain "Rows" [] .empty)
  have hclean : binder.model.validate = [] := by decide +kernel
  have hsome : (binder.bind chain).toOption.any (fun path => path.segments.any fun segment =>
      segment.type.any ModelType.isCollection) = true := by decide +kernel
  obtain ⟨path, hpath, hany⟩ := (Option.any_eq_true _ _).1 hsome
  obtain ⟨segment, hsegment, htypes⟩ := List.any_eq_true.1 hany
  obtain ⟨type, htype, hcollection⟩ := (Option.any_eq_true _ _).1 htypes
  have hbind := Outcome.eq_ok_of_toOption hpath
  rw [hall binder chain path hclean hbind segment hsegment type htype] at hcollection
  contradiction

end Binder
end ResourcePaths
