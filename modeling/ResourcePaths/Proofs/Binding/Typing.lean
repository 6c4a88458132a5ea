import Mathlib.Data.List.Nodup
import Mathlib.Data.List.Perm.Subperm
import ResourcePaths.Proofs.Binding.Steps
import ResourcePaths.Proofs.Model.Naming

/-!
# The types of bound paths

The rules by which the segments of a bound path follow one another, stated without the order in
which the binder tries them.  Every path that binds, from the container or from a source, obeys
them at each of its tokens, and all types on the way are types of the model.
-/

namespace ResourcePaths

/-! ### Types of the model -/

theorem ModelType.within_split {model : Model} {type : ModelType} (h : type.Within model) :
    type.split.1.Within model := by
  cases type with
  | collection item => exact h
  | primitive | structured | enum | definition | untyped | bad => exact h

namespace Model

variable {model : Model}

/-- A name in a path stands for primitive types and for elements that have it. -/
theorem mem_typesNamed {ignoreCase : Bool} {name : String} {target : ModelType}
    (h : target ∈ model.typesNamed ignoreCase name) :
    (∃ primitive, target = .primitive primitive) ∨
      ∃ element ∈ model.find name ignoreCase, element.type? = some target := by
  rw [typesNamed] at h
  split at h
  · exact .inl ⟨_, List.mem_singleton.1 h⟩
  · exact .inr (List.mem_filterMap.1 h)

theorem typesNamed_within (hindexed : model.Indexed) {ignoreCase : Bool}
    {name : String} {target : ModelType} (h : target ∈ model.typesNamed ignoreCase name) :
    target.Within model := by
  rcases mem_typesNamed h with ⟨primitive, rfl⟩ | ⟨element, hfound, htype⟩
  · trivial
  · have hmem := hindexed.mem_elements_of_mem_find hfound
    cases element with
    | structured | enum | definition =>
        obtain rfl := Option.some.inj htype
        exact hmem
    | operation | term | container => contradiction

theorem sourceType_within (source : NavigationSource) : (model.sourceType source).Within model := by
  cases source with
  | declared source =>
      show (source.typeWith _).Within model
      unfold DeclaredSource.typeWith
      split <;> exact TypeReference.follow_within _
  | unknown => exact TypeReference.follow_within _

end Model

/-! ### Rules -/

/-- The names of the arguments, where all of them have one, are those of the parameters. -/
def Operation.NamesAgree (operation : Operation) (arguments : List Argument) : Prop :=
  ∀ names, Argument.names? arguments = some names →
    ∀ name, name ∈ names ↔ name ∈ operation.callParameters.map (·.decl.name)

/-- The arguments of a call are those of a function: as many as it has parameters, and, where all
of them are named, with each parameter named.  An action asks for nothing. -/
structure Operation.Admits (operation : Operation) (arguments : List Argument) : Prop where
  count : operation.kind = .function → operation.callParameters.length = arguments.length
  named : operation.kind = .function → ∀ names, Argument.names? arguments = some names →
    ∀ parameter ∈ operation.callParameters, parameter.decl.name ∈ names
  /-- No argument has another name, unless two parameters share one. -/
  agree : operation.kind = .function → (operation.callParameters.map (·.decl.name)).Nodup →
    operation.NamesAgree arguments

namespace Binder

/-- The segments that may stand behind a place. -/
inductive Follows (binder : Binder) (token : Token) (place : Place) : Segment → Prop
  | navigation {structured : StructuredType} {property : NavigationProperty} {type : ModelType}
      (hcurrent : place.type = some (.structured structured))
      (hfound : binder.model.findProperty? structured token.identifier
        binder.settings.ignoreCase = some (.navigation property))
      (htype : binder.model.typeOf (.navigation property) = type) :
      Follows binder token place
        { identifier := token.identifier
          kind := .navigation property
          type := some type.split.1
          cardinality := type.split.2
          source := place.source.map fun source => binder.model.navigate source property }
  | property {structured : StructuredType} {property : StructuralProperty} {type : ModelType}
      (hcurrent : place.type = some (.structured structured))
      (hfound : binder.model.findProperty? structured token.identifier
        binder.settings.ignoreCase = some (.structural property))
      (htype : binder.model.typeOf (.structural property) = type) :
      Follows binder token place
        { identifier := token.identifier
          kind := .property property
          type := some type.split.1
          cardinality := if type.isCollection then .collection else place.cardinality
          source := if type.split.1.structured?.isSome then place.source else none }
  | cast {current target : ModelType} (hcurrent : place.type = some current)
      (hnamed : binder.model.typesNamed binder.settings.ignoreCase token.identifier = [target])
      (hassignable : binder.model.isAssignable current target = true) :
      Follows binder token place
        { identifier := token.identifier
          kind := .cast target
          type := some target
          cardinality := place.cardinality
          source := place.source }
  | call {current : ModelType} {operation : Operation} {parameter : Parameter}
      (hcurrent : place.type = some current)
      (hparameter : operation.bindingParameter? = some parameter)
      (hassignable : binder.model.isAssignable (binder.model.parameterType parameter)
        (place.cardinality.wrap current) = true)
      (hadmits : operation.Admits (Argument.ofValues token.values)) :
      Follows binder token place
        (binder.callSegment token.identifier
          (.operation operation (Argument.ofValues token.values)) operation
          (place.source.bind (binder.resultSource? operation)))
  | undeclared {current : ModelType} (hcurrent : place.type = some current)
      (hopen : binder.model.isOpen current = true)
      (hnone : ∀ structured, current = .structured structured →
        binder.model.findProperty? structured token.identifier binder.settings.ignoreCase = none) :
      Follows binder token place
        { identifier := token.identifier
          kind := .openProperty token.identifier
          type := some .untyped
          cardinality := .single
          source := none }

/-- The segments that may stand at the front of a path from the container. -/
inductive Starts (binder : Binder) (token : Token) : Segment → Prop
  | source {container : Container} {source : DeclaredSource}
      (hcontainer : binder.container = some container)
      (hfound : container.findSource? token.identifier binder.settings.ignoreCase =
        some source) :
      Starts binder token (binder.sourceSegment token.identifier source)
  | imported {container : Container} {imp : OperationImport} {operation : Operation}
      (hcontainer : binder.container = some container)
      (himport : imp ∈ container.findImports token.identifier binder.settings.ignoreCase)
      (hexposed : operation ∈ binder.model.importedOperations imp)
      (hadmits : operation.Admits (Argument.ofValues token.values)) :
      Starts binder token
        (binder.callSegment token.identifier
          (.imported imp operation (Argument.ofValues token.values)) operation
          ((binder.model.importedSet? imp).map .declared))
  | unbound {operation : Operation}
      (hfound : .operation operation ∈
        binder.model.find token.identifier binder.settings.ignoreCase)
      (hunbound : operation.decl.isBound = false)
      (hadmits : operation.Admits (Argument.ofValues token.values)) :
      Starts binder token
        (binder.callSegment token.identifier
          (.operation operation (Argument.ofValues token.values)) operation none)

/-- The segments that may stand behind a place, or at the front. -/
inductive Extends (binder : Binder) (token : Token) : Option Place → Segment → Prop
  | front {segment : Segment} (hstarts : Starts binder token segment) :
      Extends binder token none segment
  | behind {place : Place} {segment : Segment} (hfollows : Follows binder token place segment) :
      Extends binder token (some place) segment

/-- The key that stands behind a segment: that segment holds a collection of entities, and the key
picks one of them. -/
structure KeyFollows (segment key : Segment) : Prop where
  entities : ∃ entity, segment.type = some (.structured entity) ∧ entity.kind = .entity
  collection : segment.cardinality = .collection
  picked : ∃ values, key = segment.keyed values

/-- Segments follow the rules, token by token: each token has one segment, and a key behind it
exactly when it has values that are not the arguments of a call. -/
inductive WellTyped (binder : Binder) : Option Place → List Token → List Segment → Prop
  | nil (start : Option Place) : WellTyped binder start [] []
  | bare {start : Option Place} {token : Token} {segment : Segment} {rest : List Token}
      {segments : List Segment} (hextends : Extends binder token start segment)
      (hidentifier : segment.identifier = token.identifier)
      (hnokey : token.values = [] ∨ segment.isCall = true)
      (hrest : WellTyped binder (some segment.place) rest segments) :
      WellTyped binder start (token :: rest) (segment :: segments)
  | keyed {start : Option Place} {token : Token} {segment key : Segment} {rest : List Token}
      {segments : List Segment} (hextends : Extends binder token start segment)
      (hidentifier : segment.identifier = token.identifier)
      (hvalues : token.values ≠ []) (hcall : segment.isCall = false)
      (hkey : KeyFollows segment key)
      (hrest : WellTyped binder (some key.place) rest segments) :
      WellTyped binder start (token :: rest) (segment :: key :: segments)

variable {binder : Binder} {token : Token} {segment : Segment}

/-! ### Arguments -/

theorem map_name_of_names? {arguments : List Argument} {names : List String}
    (h : Argument.names? arguments = some names) :
    arguments.map Argument.name = names.map some := by
  induction arguments generalizing names with
  | nil =>
      obtain rfl : [] = names := Option.some.inj h
      rfl
  | cons argument rest ih =>
      rw [Argument.names?, List.mapM_cons, Option.bind_eq_bind, Option.bind_eq_some_iff] at h
      obtain ⟨name, hname, h⟩ := h
      rw [Option.bind_eq_bind, Option.bind_eq_some_iff] at h
      obtain ⟨others, hothers, heq⟩ := h
      obtain rfl : name :: others = names := Option.some.inj heq
      rw [List.map_cons, List.map_cons, hname, ih hothers]

theorem length_of_names? {arguments : List Argument} {names : List String}
    (h : Argument.names? arguments = some names) : names.length = arguments.length := by
  simpa using (congrArg List.length (map_name_of_names? h)).symm

theorem admits_of_takes {operation : Operation} {arguments : List Argument}
    (h : operation.takes arguments = true) : operation.Admits arguments := by
  have hfunction (hkind : operation.kind = .function) :
      operation.callParameters.length = arguments.length ∧
        ∀ names, Argument.names? arguments = some names →
          ∀ parameter ∈ operation.callParameters, parameter.decl.name ∈ names := by
    simp only [Operation.takes, hkind, reduceCtorEq, decide_false, Bool.false_or,
      Bool.and_eq_true, decide_eq_true_eq] at h
    refine ⟨h.1, fun names hnames parameter hparameter => ?_⟩
    have hall := h.2
    rw [hnames] at hall
    simpa using List.all_eq_true.1 hall parameter hparameter
  refine ⟨fun hkind => (hfunction hkind).1, fun hkind => (hfunction hkind).2, ?_⟩
  intro hkind hnodup names hnames name
  obtain ⟨hcount, hnamed⟩ := hfunction hkind
  -- The names of the parameters are all given, and there are no fewer of them than names given:
  -- unless one of them comes twice, the two lists are permutations of each other.
  have hsubset : operation.callParameters.map (·.decl.name) ⊆ names := by
    intro name hname
    obtain ⟨parameter, hparameter, rfl⟩ := List.mem_map.1 hname
    exact hnamed names hnames parameter hparameter
  have hlength : names.length ≤ (operation.callParameters.map (·.decl.name)).length := by
    rw [List.length_map, length_of_names? hnames]
    exact Nat.le_of_eq hcount.symm
  have hperm := (List.subperm_of_subset hnodup hsubset).perm_of_length_le hlength
  exact hperm.mem_iff.symm

/-! ### Segments -/

theorem follows_of_bindsOn {place : Place} {current : ModelType}
    (hcurrent : place.type = some current) (h : BindsOn binder place current token segment) :
    Follows binder token place segment ∧ segment.identifier = token.identifier := by
  cases h with
  | property property hfound =>
      obtain ⟨structured, rfl, hfound⟩ := propertyNamed?_eq_some_iff.1 hfound
      cases property with
      | navigation property => exact ⟨.navigation hcurrent hfound rfl, rfl⟩
      | structural property => exact ⟨.property hcurrent hfound rfl, rfl⟩
  | cast target hproperty htarget hassignable =>
      rw [castTargets] at htarget
      split at htarget
      · exact ⟨.cast hcurrent htarget hassignable, rfl⟩
      · contradiction
  | call operation hproperty htarget hpicked =>
      obtain ⟨hmem, htakes⟩ := Model.mem_of_selectOverload hpicked
      have hbound := isBoundTo_of_mem_boundCandidates hmem
      obtain ⟨parameter, hparameter, hassignable⟩ := isBoundTo_iff.1 hbound
      exact ⟨.call hcurrent hparameter hassignable (admits_of_takes htakes),
        identifier_callSegment ..⟩
  | undeclared hproperty htarget hcandidates hopen =>
      refine ⟨.undeclared hcurrent hopen ?_, rfl⟩
      rintro structured rfl
      exact hproperty

theorem starts_of_bindsRoot {container : Container} (hcontainer : binder.container = some container)
    (h : BindsRoot binder container token segment) :
    Starts binder token segment ∧ segment.identifier = token.identifier := by
  cases h with
  | source source hfound => exact ⟨.source hcontainer hfound, rfl⟩
  | imported imp operation hsource hpicked =>
      obtain ⟨hmem, htakes⟩ := Model.mem_of_selectOverload hpicked
      obtain ⟨found, himport, hmem⟩ := List.mem_flatMap.1 hmem
      obtain ⟨exposed, hexposed, heq⟩ := List.mem_map.1 hmem
      obtain ⟨rfl, rfl⟩ := Prod.mk.inj heq
      exact ⟨.imported hcontainer himport hexposed (admits_of_takes htakes),
        identifier_callSegment ..⟩
  | unbound operation hsource himport hdotted hpicked =>
      obtain ⟨hmem, htakes⟩ := Model.mem_of_selectOverload hpicked
      obtain ⟨hmem, hunbound⟩ := List.mem_filter.1 hmem
      have hfound := Model.mem_filterMap_operation?.1 hmem
      exact ⟨.unbound hfound (by simpa using hunbound) (admits_of_takes htakes),
        identifier_callSegment ..⟩

theorem extends_of_binds {start : Option Place} (h : Binds binder token start segment) :
    Extends binder token start segment ∧ segment.identifier = token.identifier := by
  cases h with
  | root hcontainer hsegment =>
      obtain ⟨hstarts, hidentifier⟩ := starts_of_bindsRoot hcontainer hsegment
      exact ⟨.front hstarts, hidentifier⟩
  | next htype hsegment =>
      obtain ⟨hfollows, hidentifier⟩ := follows_of_bindsOn htype hsegment
      exact ⟨.behind hfollows, hidentifier⟩

theorem callSegment_within (identifier : String) (kind : SegmentKind) (operation : Operation)
    (source : Option NavigationSource) :
    ∀ type ∈ (binder.callSegment identifier kind operation source).type,
      type.Within binder.model := by
  intro type htype
  simp only [callSegment] at htype
  split at htype
  · rename_i result hresult
    obtain rfl := Option.some.inj htype
    obtain ⟨reference, -, rfl⟩ := Option.map_eq_some_iff.1 hresult
    exact ModelType.within_split (TypeReference.follow_within reference)
  · contradiction

/-- What a token leads to has a type of the model. -/
theorem binds_within (hindexed : binder.model.Indexed) {start : Option Place}
    (hsegment : Binds binder token start segment) :
    ∀ type ∈ segment.type, type.Within binder.model := by
  cases hsegment with
  | root hcontainer hsegment =>
      cases hsegment with
      | source source hfound =>
          rintro _ ⟨rfl⟩
          exact ModelType.within_split (Model.sourceType_within _)
      | imported | unbound => exact callSegment_within _ _ _ _
  | next htype hsegment =>
      cases hsegment with
      | property property hfound =>
          cases property with
          | structural | navigation =>
              rintro _ ⟨rfl⟩
              exact ModelType.within_split (TypeReference.follow_within _)
      | cast target hproperty htarget hassignable =>
          rintro _ ⟨rfl⟩
          rw [castTargets] at htarget
          split at htarget
          · have hmem : target ∈ [target] := List.mem_singleton_self _
            rw [← htarget] at hmem
            exact Model.typesNamed_within hindexed hmem
          · contradiction
      | call => exact callSegment_within _ _ _ _
      | undeclared =>
          rintro _ ⟨rfl⟩
          trivial

theorem placeOf_within (source : NavigationSource) :
    ∀ type ∈ (binder.placeOf source).type, type.Within binder.model := by
  rintro _ ⟨rfl⟩
  exact ModelType.within_split (Model.sourceType_within source)

/-! ### Paths -/

/-- The segments of one step, and those of the steps behind it. -/
theorem wellTyped_of_runs {start : Option Place} {tokens : List Token} {steps : List Step}
    (h : Runs binder start tokens steps) :
    WellTyped binder start tokens (steps.flatMap Step.segments) := by
  induction h with
  | nil start => exact .nil start
  | @cons start token step rest steps hsegment hkey _ ih =>
      obtain ⟨hextends, hidentifier⟩ := extends_of_binds hsegment
      rw [List.flatMap_cons]
      obtain ⟨segment, key⟩ := step
      rcases bindKey_eq_ok_iff.1 hkey with ⟨hnokey, rfl⟩ | ⟨hvalues, hcall, values, hkeyAt, rfl⟩
      · exact .bare hextends hidentifier hnokey ih
      · obtain ⟨entity, htype, hkind, hcardinality, -⟩ := Model.keyAt_eq_ok_iff.1 hkeyAt
        exact .keyed hextends hidentifier hvalues hcall
          ⟨⟨entity, htype, hkind⟩, hcardinality, values, rfl⟩ ih

/-- A path that binds is well typed, whether it starts at the container or at a source. -/
theorem wellTyped_of_bind (binder : Binder) (chain : Chain) (path : ResourcePath) :
    (binder.bind chain = .ok path → WellTyped binder none chain.tokens path.segments) ∧
      ∀ source, binder.bindFrom source chain = .ok path →
        WellTyped binder (some (binder.placeOf source)) chain.tokens path.segments := by
  constructor
  · intro h
    obtain ⟨-, -, -, hruns⟩ := bindChain_eq_ok_iff.1 h
    exact wellTyped_of_runs hruns
  · intro source h
    obtain ⟨-, -, -, hruns⟩ := bindChain_eq_ok_iff.1 h
    exact wellTyped_of_runs hruns

/-- Things of a type with a name, and a function on them that declares one parameter twice. -/
def repeatedParameter : Declared.Description where
  schemas := [{
    namespaceName := "N"
    entityTypes := [{
      name := "Thing", key := some ["Id"]
      properties := [
        { name := "Id", typeName := "Edm.Int32" }, { name := "Name", typeName := "Edm.String" }] }]
    functions := [{
      name := "Pick", isBound := true, returnType := some { typeName := "N.Thing" }
      parameters := [
        { name := "it", typeName := "Collection(N.Thing)" },
        { name := "a", typeName := "Edm.Int32" }, { name := "a", typeName := "Edm.Int32" }] }]
    containers := [{
      name := "Default", entitySets := [{ name := "Things", entityType := "N.Thing" }] }] }]

/-- The binder of these things. -/
def repeatedParameterBinder : Binder :=
  .ofModel (.ofDescription repeatedParameter) {}

/-- The name of one of the things. -/
theorem wellTyped_of_key :
    ∃ path, repeatedParameterBinder.bind (.plain "Things" [⟨none, "2"⟩] (.plain "Name" [] .empty)) =
        .ok path ∧
      WellTyped repeatedParameterBinder none
        [.plain "Things" [⟨none, "2"⟩], .plain "Name" []] path.segments := by
  let chain : Chain := .plain "Things" [⟨none, "2"⟩] (.plain "Name" [] .empty)
  have hsome : (repeatedParameterBinder.bind chain).toOption.isSome = true := by decide +kernel
  obtain ⟨path, hpath⟩ := Option.isSome_iff_exists.1 hsome
  have hbind := Outcome.eq_ok_of_toOption hpath
  exact ⟨path, hbind, (wellTyped_of_bind _ chain path).1 hbind⟩

/-- An argument whose name is that of no parameter passes where another name counts twice. -/
theorem not_namesAgree_of_bind :
    ¬ ∀ (binder : Binder) (chain : Chain) (path : ResourcePath), binder.bind chain = .ok path →
      ∀ segment ∈ path.segments, ∀ operation arguments,
        segment.kind = .operation operation arguments → operation.kind = .function →
          operation.NamesAgree arguments := by
  intro hall
  let chain : Chain :=
    .plain "Things" [] (.plain "N.Pick" [⟨some "a", "1"⟩, ⟨some "b", "2"⟩] .empty)
  -- The call takes `b`, which is no parameter, since `a` answers for both parameters.
  let strays (segment : Segment) : Bool :=
    match segment.kind with
    | .operation operation arguments =>
      operation.kind = .function && Argument.names? arguments = some ["a", "b"] &&
        !(operation.callParameters.map (·.decl.name)).contains "b"
    | _ => false
  have hsome : ((repeatedParameterBinder.bind chain).toOption.any fun path =>
      path.segments.any strays) = true := by decide +kernel
  obtain ⟨path, hpath, hany⟩ := (Option.any_eq_true _ _).1 hsome
  obtain ⟨segment, hmem, hstrays⟩ := List.any_eq_true.1 hany
  have hbind := Outcome.eq_ok_of_toOption hpath
  simp only [strays] at hstrays
  split at hstrays
  · rename_i operation arguments hkind
    simp only [Bool.and_eq_true, decide_eq_true_eq, Bool.not_eq_true', List.contains_eq_mem,
      decide_eq_false_iff_not] at hstrays
    obtain ⟨⟨hfunction, hnames⟩, hstray⟩ := hstrays
    have hagree := hall _ chain path hbind segment hmem operation arguments hkind hfunction
    exact hstray ((hagree _ hnames "b").1 (by decide))
  · contradiction

end Binder
end ResourcePaths
