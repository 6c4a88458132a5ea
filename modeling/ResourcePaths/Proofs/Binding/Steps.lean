import Mathlib.Data.List.Basic
import ResourcePaths.Binding.Binder
import ResourcePaths.Proofs.Outcome
import ResourcePaths.Proofs.Path.PlainChains

/-!
# The steps of the binder

What the binder does is said here once: which segments a token can give at a place, which key its
values can give, and that a path binds exactly when its tokens can be gone through one by one.
Nothing behind this module opens the definitions of the binder itself.
-/

namespace ResourcePaths

/-! ### Overloads -/

namespace Model

variable {α : Type} {model : Model} {operationOf : α → Operation}
  {bindingType : Option ModelType} {arguments : List Argument} {candidates fewer : List α}
  {candidate : α}

theorem preferExact_sublist :
    (model.preferExact operationOf bindingType candidates).Sublist candidates := by
  cases bindingType with
  | none => exact .refl _
  | some type =>
      rw [preferExact]
      split
      · exact .refl _
      · exact List.filter_sublist

/-- A call picks the only candidate that takes its arguments, where only those bound exactly count
if there are any. -/
theorem selectOverload_eq_ok_iff :
    model.selectOverload operationOf bindingType arguments candidates = .ok candidate ↔
      Argument.repeated? arguments = none ∧
        model.preferExact operationOf bindingType
          (candidates.filter fun other => (operationOf other).takes arguments) = [candidate] := by
  simp only [selectOverload]
  split
  · rename_i name hname
    simp [hname]
  · rename_i hnone
    split
    · rename_i hempty
      simp [hempty]
    · rename_i found hfound
      simp [hnone, hfound]
    · rename_i hmany
      simp only [reduceCtorEq, hnone, true_and, false_iff]
      exact hmany candidate

theorem mem_of_selectOverload
    (h : model.selectOverload operationOf bindingType arguments candidates = .ok candidate) :
    candidate ∈ candidates ∧ (operationOf candidate).takes arguments = true := by
  obtain ⟨-, hpicked⟩ := selectOverload_eq_ok_iff.1 h
  have hmem : candidate ∈ [candidate] := List.mem_singleton_self _
  rw [← hpicked] at hmem
  exact List.mem_filter.1 (preferExact_sublist.subset hmem)

theorem filter_eq_singleton_of_sublist {kind : α → Bool} (hsublist : fewer.Sublist candidates)
    (hmem : candidate ∈ fewer) (h : candidates.filter kind = [candidate]) :
    fewer.filter kind = [candidate] := by
  have hkind : kind candidate = true := by
    have : candidate ∈ candidates.filter kind := by
      rw [h]
      exact List.mem_singleton_self _
    exact (List.mem_filter.1 this).2
  have hfilter := hsublist.filter kind
  rw [h, List.sublist_singleton] at hfilter
  rcases hfilter with hnil | hsingleton
  · exact absurd hkind (List.filter_eq_nil_iff.1 hnil candidate hmem)
  · exact hsingleton

theorem preferExact_of_sublist (hsublist : fewer.Sublist candidates) (hmem : candidate ∈ fewer)
    (h : model.preferExact operationOf bindingType candidates = [candidate]) :
    model.preferExact operationOf bindingType fewer = [candidate] := by
  -- Where all candidates count, the one that is picked is the only one.
  have honly (hall : candidates = [candidate]) : fewer = [candidate] := by
    rw [hall, List.sublist_singleton] at hsublist
    rcases hsublist with rfl | hsingleton
    · contradiction
    · exact hsingleton
  cases bindingType with
  | none => exact honly h
  | some type =>
      simp only [preferExact] at h ⊢
      split at h
      · rename_i hnone
        obtain rfl := h
        rw [honly rfl, if_pos hnone]
      · rw [filter_eq_singleton_of_sublist hsublist hmem h]
        rfl

/-- The operation that a call picks is picked again from fewer candidates, if it is among them. -/
theorem selectOverload_of_sublist (hsublist : fewer.Sublist candidates) (hmem : candidate ∈ fewer)
    (h : model.selectOverload operationOf bindingType arguments candidates = .ok candidate) :
    model.selectOverload operationOf bindingType arguments fewer = .ok candidate := by
  have htakes := (mem_of_selectOverload h).2
  obtain ⟨hrepeated, hpicked⟩ := selectOverload_eq_ok_iff.1 h
  refine selectOverload_eq_ok_iff.2 ⟨hrepeated, ?_⟩
  exact preferExact_of_sublist (hsublist.filter _) (List.mem_filter.2 ⟨hmem, htakes⟩) hpicked

/-! ### Keys -/

theorem entity?_eq_some_iff {type : ModelType} {entity : StructuredType} :
    type.entity? = some entity ↔ type = .structured entity ∧ entity.kind = .entity := by
  cases type with
  | structured found =>
      by_cases hkind : found.kind = .entity
      · simp only [ModelType.entity?, hkind, if_true, Option.some.injEq, ModelType.structured.injEq]
        constructor
        · rintro rfl
          exact ⟨rfl, hkind⟩
        · exact And.left
      · simp only [ModelType.entity?, hkind, if_false, reduceCtorEq, ModelType.structured.injEq,
          false_iff, not_and]
        rintro rfl
        exact hkind
  | primitive | enum | definition | collection | untyped | bad => simp [ModelType.entity?]

/-- Values write a key at a place only if it holds a collection of entities. -/
theorem keyAt_eq_ok_iff {ignoreCase : Bool} {place : Place} {values : List NamedValue}
    {key : List KeyValue} :
    model.keyAt ignoreCase place values = .ok key ↔
      ∃ entity, place.type = some (.structured entity) ∧ entity.kind = .entity ∧
        place.cardinality = .collection ∧
        model.entityKey ignoreCase entity values = .ok key := by
  obtain ⟨type, cardinality, source⟩ := place
  unfold keyAt
  split
  · rename_i found htype hcardinality
    obtain rfl : type = some found := htype
    obtain rfl : cardinality = .collection := hcardinality
    split
    · rename_i entity hentity
      obtain ⟨rfl, hkind⟩ := entity?_eq_some_iff.1 hentity
      constructor
      · intro h
        exact ⟨entity, rfl, hkind, rfl, h⟩
      · rintro ⟨_, ⟨rfl⟩, -, -, h⟩
        exact h
    · rename_i hentity
      simp only [reduceCtorEq, Option.some.injEq, true_and, false_iff, not_exists, not_and]
      rintro entity rfl hkind -
      exact absurd (entity?_eq_some_iff.2 ⟨rfl, hkind⟩) (by simp [hentity])
  · rename_i hplace
    simp only [reduceCtorEq, false_iff, not_exists, not_and]
    rintro entity htype - hcardinality -
    exact hplace _ htype hcardinality

end Model

namespace Binder

/-! ### Segments -/

/-- The segments that a token may give behind a place with a type: a property; where there is none
of its name, a cast to the only type of that name; where there is none, a call of a bound
operation; and where none has that name, a property that is not declared. -/
inductive BindsOn (binder : Binder) (place : Place) (current : ModelType) (token : Token) :
    Segment → Prop
  | property (property : Property)
      (hfound : binder.propertyNamed? current token.identifier = some property) :
      BindsOn binder place current token
        (binder.propertySegment place token.identifier property)
  | cast (target : ModelType)
      (hproperty : binder.propertyNamed? current token.identifier = none)
      (htarget : binder.castTargets token.identifier = [target])
      (hassignable : binder.model.isAssignable current target = true) :
      BindsOn binder place current token
        ⟨token.identifier, .cast target, some target, place.cardinality, place.source⟩
  | call (operation : Operation)
      (hproperty : binder.propertyNamed? current token.identifier = none)
      (htarget : binder.castTargets token.identifier = [])
      (hpicked : binder.model.selectOverload id (some (place.cardinality.wrap current))
        (Argument.ofValues token.values)
        (binder.boundCandidates token.identifier (place.cardinality.wrap current)) =
          .ok operation) :
      BindsOn binder place current token
        (binder.callSegment token.identifier
          (.operation operation (Argument.ofValues token.values)) operation
          (place.source.bind (binder.resultSource? operation)))
  | undeclared
      (hproperty : binder.propertyNamed? current token.identifier = none)
      (htarget : binder.castTargets token.identifier = [])
      (hcandidates :
        binder.boundCandidates token.identifier (place.cardinality.wrap current) = [])
      (hopen : binder.model.isOpen current = true) :
      BindsOn binder place current token
        ⟨token.identifier, .openProperty token.identifier, some .untyped, .single, none⟩

/-- The segments that a first token may give: a source of the container; where there is none of
its name, a call by the name of imports; and where there is none, a call of an operation that is
not bound. -/
inductive BindsRoot (binder : Binder) (container : Container) (token : Token) : Segment → Prop
  | source (source : DeclaredSource)
      (hfound : container.findSource? token.identifier binder.settings.ignoreCase =
        some source) :
      BindsRoot binder container token (binder.sourceSegment token.identifier source)
  | imported (imp : OperationImport) (operation : Operation)
      (hsource : container.findSource? token.identifier binder.settings.ignoreCase = none)
      (hpicked : binder.model.selectOverload Prod.snd none (Argument.ofValues token.values)
        (binder.importedCandidates
          (container.findImports token.identifier binder.settings.ignoreCase)) =
            .ok (imp, operation)) :
      BindsRoot binder container token
        (binder.callSegment token.identifier
          (.imported imp operation (Argument.ofValues token.values)) operation
          ((binder.model.importedSet? imp).map .declared))
  | unbound (operation : Operation)
      (hsource : container.findSource? token.identifier binder.settings.ignoreCase = none)
      (himport : container.findImports token.identifier binder.settings.ignoreCase = [])
      (hdotted : Text.mentions token.identifier '.' = true)
      (hpicked : binder.model.selectOverload id none (Argument.ofValues token.values)
        (binder.unboundNamed token.identifier) = .ok operation) :
      BindsRoot binder container token
        (binder.callSegment token.identifier
          (.operation operation (Argument.ofValues token.values)) operation none)

/-- The segments that a token may give behind a place, or as a first token. -/
inductive Binds (binder : Binder) (token : Token) : Option Place → Segment → Prop
  | root {container : Container} {segment : Segment} (hcontainer : binder.container = some container)
      (hsegment : BindsRoot binder container token segment) : Binds binder token none segment
  | next {place : Place} {current : ModelType} {segment : Segment}
      (htype : place.type = some current) (hsegment : BindsOn binder place current token segment) :
      Binds binder token (some place) segment

variable {binder : Binder} {place : Place} {token : Token} {segment : Segment}

theorem identifier_callSegment (identifier : String) (kind : SegmentKind) (operation : Operation)
    (source : Option NavigationSource) :
    (binder.callSegment identifier kind operation source).identifier = identifier := by
  unfold callSegment
  split <;> rfl

@[simp]
theorem kind_callSegment (identifier : String) (kind : SegmentKind) (operation : Operation)
    (source : Option NavigationSource) :
    (binder.callSegment identifier kind operation source).kind = kind := by
  unfold callSegment
  split <;> rfl

@[simp]
theorem source_callSegment (identifier : String) (kind : SegmentKind) (operation : Operation)
    (source : Option NavigationSource) :
    (binder.callSegment identifier kind operation source).source = source := by
  unfold callSegment
  split <;> rfl

theorem isBoundTo_iff {type : ModelType} {operation : Operation} :
    binder.model.isBoundTo type operation = true ↔
      ∃ parameter, operation.bindingParameter? = some parameter ∧
        binder.model.isAssignable (binder.model.parameterType parameter) type = true := by
  rw [Model.isBoundTo, Option.any_eq_true]

/-- What an operation is bound to, when a call of it is considered at all. -/
theorem isBoundTo_of_mem_boundCandidates {identifier : String} {type : ModelType}
    {operation : Operation} (h : operation ∈ binder.boundCandidates identifier type) :
    binder.model.isBoundTo type operation = true := by
  simp only [boundCandidates] at h
  split at h
  · exact (List.mem_filter.1 h).2
  · split at h
    · exact (List.mem_filter.1 (List.mem_filter.1 h).1).2
    · contradiction

theorem propertyNamed?_eq_some_iff {current : ModelType} {identifier : String}
    {property : Property} :
    binder.propertyNamed? current identifier = some property ↔
      ∃ structured, current = .structured structured ∧
        binder.model.findProperty? structured identifier binder.settings.ignoreCase =
          some property := by
  unfold propertyNamed?
  cases current <;> simp [ModelType.structured?]

/-- Names along a path of sources are declared names, which are looked up in the model alone. -/
theorem resultSource?_of_model {other : Binder} (hmodel : other.model = binder.model)
    (operation : Operation) : other.resultSource? operation = binder.resultSource? operation := by
  have hfollow (source : NavigationSource) (names : List String) :
      other.followNames source names = binder.followNames source names := by
    induction names generalizing source with
    | nil => rfl
    | cons name rest ih => simp only [followNames, hmodel, ih]
  funext source
  simp only [resultSource?, hmodel, hfollow]

theorem bindOn_eq_ok_iff {current : ModelType} :
    binder.bindOn place current token = .ok segment ↔
      BindsOn binder place current token segment := by
  constructor
  · intro h
    simp only [bindOn] at h
    split at h
    · rename_i property hproperty
      obtain rfl := Except.ok.inj h
      exact .property property hproperty
    · rename_i hproperty
      split at h
      · rename_i target htarget
        rw [bindCast] at h
        split at h
        · rename_i hassignable
          obtain rfl := Except.ok.inj h
          exact .cast target hproperty htarget hassignable
        · contradiction
      · contradiction
      · rename_i htarget
        split at h
        · rename_i operation others hcandidates
          rw [bindBound, ← hcandidates] at h
          obtain ⟨picked, hpicked, heq⟩ := Outcome.bind_eq_ok_iff.1 h
          obtain rfl := Except.ok.inj heq
          exact .call picked hproperty htarget hpicked
        · rename_i hcandidates
          rw [bindOpen] at h
          split at h
          · rename_i hopen
            obtain rfl := Except.ok.inj h
            exact .undeclared hproperty htarget hcandidates hopen
          · contradiction
  · intro h
    simp only [bindOn]
    cases h with
    | property property hfound => rw [hfound]
    | cast target hproperty htarget hassignable =>
        simp only [hproperty, htarget, bindCast, hassignable, if_true]
    | call operation hproperty htarget hpicked =>
        simp only [hproperty, htarget]
        -- A call that picks an operation has candidates, so that open types are not asked.
        split
        · rename_i first others hcandidates
          rw [hcandidates] at hpicked
          simp only [bindBound]
          rw [hpicked]
          rfl
        · rename_i hcandidates
          have := (Model.mem_of_selectOverload hpicked).1
          rw [hcandidates] at this
          contradiction
    | undeclared hproperty htarget hcandidates hopen =>
        simp only [hproperty, htarget, hcandidates, bindOpen, hopen, if_true]

theorem bindRoot_eq_ok_iff {container : Container} :
    binder.bindRoot container token = .ok segment ↔
      BindsRoot binder container token segment := by
  constructor
  · intro h
    simp only [bindRoot] at h
    split at h
    · rename_i source hsource
      obtain rfl := Except.ok.inj h
      exact .source source hsource
    · rename_i hsource
      split at h
      · rename_i first others himports
        rw [bindImport, ← himports] at h
        obtain ⟨⟨imp, operation⟩, hpicked, heq⟩ := Outcome.bind_eq_ok_iff.1 h
        obtain rfl := Except.ok.inj heq
        exact .imported imp operation hsource hpicked
      · rename_i himports
        split at h
        · rename_i first others hcandidates
          split at hcandidates
          · rename_i hdotted
            rw [bindUnbound, ← hcandidates] at h
            obtain ⟨operation, hpicked, heq⟩ := Outcome.bind_eq_ok_iff.1 h
            obtain rfl := Except.ok.inj heq
            exact .unbound operation hsource himports hdotted hpicked
          · contradiction
        · contradiction
  · intro h
    simp only [bindRoot]
    cases h with
    | source source hsource => rw [hsource]
    | imported imp operation hsource hpicked =>
        rw [hsource]
        cases himports : container.findImports token.identifier binder.settings.ignoreCase with
        | nil =>
            have := (Model.mem_of_selectOverload hpicked).1
            rw [himports] at this
            contradiction
        | cons first others =>
            rw [himports] at hpicked
            simp only [bindImport]
            rw [hpicked]
            rfl
    | unbound operation hsource himports hdotted hpicked =>
        simp only [hsource, himports, hdotted, if_true]
        -- As with calls on a value: there are candidates, since one of them has been picked.
        split
        · rename_i first others hcandidates
          rw [hcandidates] at hpicked
          simp only [bindUnbound]
          rw [hpicked]
          rfl
        · rename_i hcandidates
          have := (Model.mem_of_selectOverload hpicked).1
          rw [hcandidates] at this
          contradiction

/-! ### Steps -/

/-- What the values of a token behind its segment are: no key where there are none or where they
are arguments, and otherwise the key that they write. -/
theorem bindKey_eq_ok_iff {key : Option (List KeyValue)} :
    binder.bindKey segment token = .ok key ↔
      ((token.values = [] ∨ segment.isCall = true) ∧ key = none) ∨
        token.values ≠ [] ∧ segment.isCall = false ∧
          ∃ values, binder.model.keyAt binder.settings.ignoreCase segment.place token.values =
            .ok values ∧ key = some values := by
  unfold bindKey
  split
  · rename_i hnokey
    simp only [Bool.or_eq_true, List.isEmpty_iff] at hnokey
    constructor
    · intro h
      exact .inl ⟨hnokey, (Except.ok.inj h).symm⟩
    · rintro (⟨-, rfl⟩ | ⟨hvalues, hcall, -⟩)
      · rfl
      · rcases hnokey with hempty | hcall'
        · exact absurd hempty hvalues
        · rw [hcall] at hcall'
          contradiction
  · rename_i hkey
    simp only [Bool.or_eq_true, List.isEmpty_iff, not_or, Bool.not_eq_true] at hkey
    obtain ⟨hvalues, hcall⟩ := hkey
    simp only [hvalues, hcall, Bool.false_eq_true, or_self, false_and, false_or, ne_eq,
      not_false_eq_true, true_and]
    split
    · rename_i values hkeyAt
      simp only [hkeyAt, Except.ok.injEq, exists_eq_left']
      exact eq_comm
    · rename_i hkeyAt
      simp [hkeyAt]

/-- Tokens can be gone through from a place, or from the container: each gives its segment and its
key, and the next one goes on from there. -/
inductive Runs (binder : Binder) : Option Place → List Token → List Step → Prop
  | nil (start : Option Place) : Runs binder start [] []
  | cons {start : Option Place} {token : Token} {step : Step} {rest : List Token}
      {steps : List Step} (hsegment : Binds binder token start step.segment)
      (hkey : binder.bindKey step.segment token = .ok step.key)
      (hrest : Runs binder (some step.place) rest steps) :
      Runs binder start (token :: rest) (step :: steps)

theorem length_of_runs {start : Option Place} {tokens : List Token} {steps : List Step}
    (h : Runs binder start tokens steps) : steps.length = tokens.length := by
  induction h with
  | nil start => rfl
  | cons hsegment hkey _ ih => rw [List.length_cons, List.length_cons, ih]

theorem faultAt_eq_ok_iff {α : Type} {index : Nat} {found : Except TokenFault α} {value : α} :
    faultAt index token found = .ok value ↔ found = .ok value := by
  cases found <;> simp [faultAt]

theorem finishStep_eq_ok_iff {step : Step} :
    binder.finishStep token segment = .ok step ↔
      segment = step.segment ∧ binder.bindKey step.segment token = .ok step.key := by
  rw [finishStep, Outcome.map_eq_ok_iff]
  constructor
  · rintro ⟨key, hkey, rfl⟩
    exact ⟨rfl, hkey⟩
  · rintro ⟨rfl, hkey⟩
    exact ⟨step.key, hkey, rfl⟩

theorem bindNext_eq_ok_iff :
    binder.bindNext place token = .ok segment ↔ Binds binder token (some place) segment := by
  unfold bindNext
  split
  · rename_i current htype
    rw [bindOn_eq_ok_iff]
    constructor
    · intro h
      exact .next htype h
    · rintro (_ | ⟨htype', h⟩)
      rw [htype] at htype'
      obtain rfl := Option.some.inj htype'
      exact h
  · rename_i htype
    constructor
    · intro h
      contradiction
    · rintro (_ | ⟨htype', -⟩)
      rw [htype] at htype'
      contradiction

theorem bindRest_eq_ok_iff {index : Nat} {tokens : List Token} {steps : List Step} :
    binder.bindRest place index tokens = .ok steps ↔ Runs binder (some place) tokens steps := by
  -- The position matters to errors alone, and so does the identifier.
  induction tokens generalizing place index steps with
  | nil =>
      constructor
      · intro h
        obtain rfl := Except.ok.inj h
        exact .nil _
      · rintro ⟨⟩
        rfl
  | cons token rest ih =>
      simp only [bindRest, Outcome.bind_eq_ok_iff, faultAt_eq_ok_iff, bindNext_eq_ok_iff,
        finishStep_eq_ok_iff, ih]
      constructor
      · rintro ⟨step, ⟨_, hsegment, rfl, hkey⟩, others, hrest, heq⟩
        obtain rfl := Except.ok.inj heq
        exact .cons hsegment hkey hrest
      · rintro (_ | ⟨hsegment, hkey, hrest⟩)
        exact ⟨_, ⟨_, hsegment, rfl, hkey⟩, _, hrest, rfl⟩

theorem bindTokens_eq_ok_iff {start : Option Place} {tokens : List Token} {steps : List Step} :
    binder.bindTokens start tokens = .ok steps ↔ Runs binder start tokens steps := by
  cases start with
  | some place => exact bindRest_eq_ok_iff
  | none =>
      cases tokens with
      | nil =>
          constructor
          · intro h
            obtain rfl := Except.ok.inj h
            exact .nil _
          · rintro ⟨⟩
            rfl
      | cons token rest =>
          simp only [bindTokens]
          split
          · rename_i hcontainer
            constructor
            · intro h
              contradiction
            · rintro (_ | ⟨⟨hcontainer', -⟩, -, -⟩)
              rw [hcontainer] at hcontainer'
              contradiction
          · rename_i container hcontainer
            simp only [Outcome.bind_eq_ok_iff, faultAt_eq_ok_iff, bindRoot_eq_ok_iff,
              finishStep_eq_ok_iff, bindRest_eq_ok_iff]
            constructor
            · rintro ⟨step, ⟨_, hsegment, rfl, hkey⟩, others, hrest, heq⟩
              obtain rfl := Except.ok.inj heq
              exact .cons (.root hcontainer hsegment) hkey hrest
            · rintro (_ | ⟨⟨hcontainer', hsegment⟩, hkey, hrest⟩)
              rw [hcontainer] at hcontainer'
              obtain rfl := Option.some.inj hcontainer'
              exact ⟨_, ⟨_, hsegment, rfl, hkey⟩, _, hrest, rfl⟩

/-- A path of one token from the container. -/
theorem bindTokens_single {container : Container} (hcontainer : binder.container = some container) :
    binder.bindTokens none [token] =
      (faultAt 0 token (binder.bindRoot container token >>= binder.finishStep token)).map
        fun step => [step] := by
  simp only [bindTokens, hcontainer]
  cases faultAt 0 token (binder.bindRoot container token >>= binder.finishStep token) with
  | ok step => rfl
  | error fault => rfl

/-! ### Chains -/

theorem firstSystem?_eq_none_iff {index : Nat} {tokens : List Token} :
    firstSystem? index tokens = none ↔ ∀ token ∈ tokens, token.isSystem = false := by
  induction tokens generalizing index with
  | nil => simp [firstSystem?]
  | cons token rest ih =>
      rw [firstSystem?, List.forall_mem_cons, ← @ih (index + 1)]
      cases token.isSystem <;> simp

/-- A path binds exactly when it has tokens, no more than allowed and none of the system, and all
of them can be gone through. -/
theorem bindChain_eq_ok_iff {start : Option Place} {tokens : List Token} {path : ResourcePath} :
    binder.bindChain start tokens = .ok path ↔
      tokens ≠ [] ∧ tokens.length ≤ binder.settings.maxSegments ∧
        (∀ token ∈ tokens, token.isSystem = false) ∧ Runs binder start tokens path.steps := by
  unfold bindChain
  split
  · rename_i hempty
    simp [List.isEmpty_iff.1 hempty]
  · rename_i hempty
    rw [List.isEmpty_iff] at hempty
    split
    · rename_i hmany
      simp only [reduceCtorEq, false_iff, not_and]
      intro _ hfew
      omega
    · rename_i hfew
      rw [Nat.not_lt] at hfew
      split
      · rename_i index identifier hsystem
        simp only [reduceCtorEq, false_iff, not_and]
        intro _ _ hplain
        rw [firstSystem?_eq_none_iff.2 hplain] at hsystem
        contradiction
      · rename_i hsystem
        rw [firstSystem?_eq_none_iff] at hsystem
        simp only [Outcome.map_eq_ok_iff, bindTokens_eq_ok_iff, ne_eq, hempty, not_false_eq_true,
          hfew, true_and]
        constructor
        · rintro ⟨steps, hruns, rfl⟩
          exact ⟨hsystem, hruns⟩
        · rintro ⟨-, hruns⟩
          exact ⟨path.steps, hruns, rfl⟩

/-! ### Raw segments -/

theorem firstMarked?_eq_none_iff {index : Nat} {texts : List String} :
    firstMarked? index texts = none ↔
      ∀ text ∈ texts, text.toList.head? ≠ some Token.systemMark := by
  induction texts generalizing index with
  | nil => simp [firstMarked?]
  | cons text texts ih =>
      rw [firstMarked?, List.forall_mem_cons, ← @ih (index + 1)]
      split <;> simp_all

/-- Raw segments that spell plain tokens bind as these do. -/
theorem bindSegments_of_spells {binder : Binder} {texts : List String} {tokens : List Token}
    (hspells : List.Forall₂ Chain.Spells texts tokens) :
    binder.bindSegments texts = binder.bindChain none tokens := by
  have hempty : Chain.empty.IsPlain := fun token hmem => by contradiction
  obtain ⟨chain, hchain, htokens⟩ := Chain.appendSegments_complete hempty hspells
  obtain rfl : chain.tokens = tokens := htokens
  rw [bindSegments, firstMarked?_eq_none_iff.2 (Chain.head?_of_forall₂_spells hspells),
    Chain.ofSegments, hchain]
  rfl

/-- Raw segments bind exactly when they spell plain tokens that bind. -/
theorem bindSegments_eq_ok_iff {binder : Binder} {texts : List String} {path : ResourcePath} :
    binder.bindSegments texts = .ok path ↔
      ∃ tokens, List.Forall₂ Chain.Spells texts tokens ∧ binder.bindChain none tokens = .ok path := by
  have hempty : Chain.empty.IsPlain := fun token hmem => by contradiction
  unfold bindSegments
  split
  · rename_i index text hmarked
    -- The mark is refused before the texts are read, and no plain token starts with it.
    simp only [reduceCtorEq, false_iff, not_exists, not_and]
    intro tokens hspells _
    rw [firstMarked?_eq_none_iff.2 (Chain.head?_of_forall₂_spells hspells)] at hmarked
    contradiction
  · rename_i hmarked
    have hmarks := firstMarked?_eq_none_iff.1 hmarked
    constructor
    · intro h
      split at h
      · rename_i chain hchain
        obtain ⟨tokens, hspells, htokens⟩ := Chain.appendSegments_sound hempty hmarks hchain
        obtain rfl : chain.tokens = tokens := htokens
        exact ⟨_, hspells, h⟩
      · contradiction
    · rintro ⟨tokens, hspells, h⟩
      rw [← bindSegments_of_spells hspells, bindSegments, hmarked] at h
      exact h

end Binder
end ResourcePaths
