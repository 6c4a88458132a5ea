import ResourcePaths.Proofs.Binding.FirstFault
import ResourcePaths.Proofs.Binding.Typing
import ResourcePaths.Proofs.Session.Queries

/-!
# Types that lead nowhere

A placeholder takes the place of a type that a name does not lead to, and a collection of
placeholders is as bad.  Nothing is assignable to a bad type, and a bad type is assignable to nothing
but the type of values that are not known: that type refuses a placeholder and overlooks one inside a
collection.  What follows from assignability follows up to that: a bad type has the bound operations
that overlook it and no others, and no path casts to a bad type or from one.
-/

namespace ResourcePaths

/-! ### Assignability -/

/-- The first type takes the second one and does not see the placeholder at its bottom: it is the
type of unknown values where the second one is still a collection. -/
inductive ModelType.Overlooks : ModelType → ModelType → Prop
  | untyped {item : ModelType} (h : item.isBad = true) : Overlooks .untyped (.collection item)
  | collection {target source : ModelType} (h : Overlooks target source) :
      Overlooks (.collection target) (.collection source)

/-- A placeholder itself is never overlooked. -/
theorem ModelType.Overlooks.isCollection {target source : ModelType} (h : target.Overlooks source) :
    source.isCollection = true := by
  cases h <;> rfl

namespace Model

variable {model : Model} {target source : ModelType}

/-- Nothing is assignable to a bad type. -/
theorem isAssignable_of_isBad_target (h : target.isBad = true) (source : ModelType) :
    model.isAssignable target source = false := by
  induction target generalizing source with
  | bad placeholder => cases source <;> rfl
  | collection item ih =>
      cases source with
      | collection other => exact ih h other
      | primitive | structured | enum | definition | untyped | bad => rfl
  | primitive | structured | enum | definition | untyped => contradiction

/-- A bad type is assignable to what overlooks it, and to nothing else. -/
theorem isAssignable_of_isBad_source (h : source.isBad = true) :
    model.isAssignable target source = true ↔ target.Overlooks source := by
  constructor
  · intro hassignable
    induction target generalizing source with
    | bad placeholder => cases source <;> contradiction
    | untyped =>
        cases source with
        | collection item => exact .untyped h
        | primitive | structured | enum | definition | untyped | bad => contradiction
    | collection item ih =>
        cases source with
        | collection other => exact .collection (ih h hassignable)
        | primitive | structured | enum | definition | untyped | bad => contradiction
    | primitive | structured | enum | definition =>
        cases source <;> contradiction
  · intro hoverlooks
    induction hoverlooks with
    | untyped => rfl
    | collection _ ih => exact ih h

/-- The binding parameter of an operation overlooks a type. -/
def OffersBlindly (model : Model) (type : ModelType) (operation : Operation) : Prop :=
  ∃ parameter, operation.bindingParameter? = some parameter ∧
    (model.parameterType parameter).Overlooks type

theorem isBoundTo_of_isBad {type : ModelType} (h : type.isBad = true) {operation : Operation} :
    model.isBoundTo type operation = true ↔ model.OffersBlindly type operation := by
  rw [isBoundTo, Option.any_eq_true]
  simp only [isAssignable_of_isBad_source h]
  rfl

/-- The types that a name stands for in a path are no placeholders. -/
theorem isBad_of_mem_typesNamed {ignoreCase : Bool} {name : String} {type : ModelType}
    (h : type ∈ model.typesNamed ignoreCase name) : type.isBad = false := by
  rcases mem_typesNamed h with ⟨primitive, rfl⟩ | ⟨element, -, htype⟩
  · rfl
  · cases element with
    | structured | enum | definition =>
        obtain rfl := Option.some.inj htype
        rfl
    | operation | term | container => contradiction

end Model

/-! ### Paths -/

namespace Binder

variable {binder : Binder} {token : Token} {segment : Segment} {start : Option Place}

/-- A segment behind a place keeps clear of bad types: a cast leads from a type that is not bad to
another one, and a call on a value of a bad type is one that overlooks it. -/
structure KeepsClear (binder : Binder) (start : Option Place) (segment : Segment) : Prop where
  cast : ∀ target, segment.kind = .cast target → target.isBad = false ∧
    ∃ place current, start = some place ∧ place.type = some current ∧ current.isBad = false
  call : ∀ operation arguments place type, segment.kind = .operation operation arguments →
    start = some place → place.fullType = some type → type.isBad = true →
    binder.model.OffersBlindly type operation

/-- A first token leads to nothing that is cast or called on a value. -/
theorem keepsClear_of_bindsRoot {container : Container}
    (h : BindsRoot binder container token segment) : KeepsClear binder none segment := by
  refine ⟨fun target hkind => ?_, fun _ _ place _ _ hstart => by contradiction⟩
  cases h with
  | source => contradiction
  | imported | unbound =>
      rw [kind_callSegment] at hkind
      contradiction

theorem keepsClear_of_bindsOn {place : Place} {current : ModelType}
    (htype : place.type = some current) (h : BindsOn binder place current token segment) :
    KeepsClear binder (some place) segment := by
  cases h with
  | property property =>
      refine ⟨fun target hkind => ?_, fun operation arguments _ _ hkind => ?_⟩
      · cases property <;> contradiction
      · cases property <;> contradiction
  | cast target _ htarget hassignable =>
      refine ⟨fun other hkind => ?_, fun operation arguments _ _ hkind => by contradiction⟩
      obtain rfl := SegmentKind.cast.inj hkind
      refine ⟨?_, place, current, rfl, htype, ?_⟩
      · rw [castTargets] at htarget
        split at htarget
        · have hmem : target ∈ [target] := List.mem_singleton_self _
          rw [← htarget] at hmem
          exact Model.isBad_of_mem_typesNamed hmem
        · contradiction
      · refine Bool.eq_false_iff.2 fun hbad => ?_
        rw [Model.isAssignable_of_isBad_target hbad] at hassignable
        contradiction
  | call picked _ _ hpicked =>
      refine ⟨fun target hkind => ?_,
        fun operation arguments other type hkind hplace hfull hbad => ?_⟩
      · rw [kind_callSegment] at hkind
        contradiction
      · rw [kind_callSegment] at hkind
        obtain ⟨rfl, -⟩ := SegmentKind.operation.inj hkind
        obtain rfl := Option.some.inj hplace
        obtain rfl : place.cardinality.wrap current = type := by
          rw [Place.fullType, htype] at hfull
          exact Option.some.inj hfull
        exact (Model.isBoundTo_of_isBad hbad).1
          (isBoundTo_of_mem_boundCandidates (Model.mem_of_selectOverload hpicked).1)
  | undeclared =>
      exact ⟨fun target hkind => by contradiction,
        fun operation arguments _ _ hkind => by contradiction⟩

theorem keepsClear_of_binds (h : Binds binder token start segment) :
    KeepsClear binder start segment := by
  cases h with
  | root _ hsegment => exact keepsClear_of_bindsRoot hsegment
  | next htype hsegment => exact keepsClear_of_bindsOn htype hsegment

/-- Where a path stands behind its first steps. -/
def placeBehind (start : Option Place) (front : List Step) : Option Place :=
  (front.getLast?.map Step.place).or start

theorem placeBehind_cons (start : Option Place) (first : Step) (rest : List Step) :
    placeBehind start (first :: rest) = placeBehind (some first.place) rest := by
  rw [placeBehind, placeBehind, List.getLast?_cons]
  cases rest.getLast? <;> rfl

/-- Each step of a run binds a token behind the steps in front of it. -/
theorem Runs.binds_at {tokens : List Token} {front back : List Step} {step : Step}
    (h : Runs binder start tokens (front ++ step :: back)) :
    ∃ token, Binds binder token (placeBehind start front) step.segment := by
  induction front generalizing start tokens with
  | nil =>
      cases h with
      | cons hsegment => exact ⟨_, hsegment⟩
  | cons first rest ih =>
      cases h with
      | cons _ _ hrest =>
          rw [placeBehind_cons]
          exact ih hrest

end Binder

/-! ### Any session -/

namespace Model

/-- Whatever has been asked before, nothing is assignable to a bad type, and a bad type only to what
overlooks it; the operations bound to a bad type are those that overlook it; and in every path that
binds, casts lead from types that are not bad to types that are not bad, and calls on a value of a
bad type are of operations that overlook it. -/
theorem badTypes_apart (description : Declared.Description) (asked : List Query) :
    let model := ofDescription description
    let session := (Session.start model).after asked
    (∀ target source : ModelType, target.isBad = true →
      session.answer (.isAssignable target source) = false) ∧
    (∀ target source : ModelType, source.isBad = true →
      (session.answer (.isAssignable target source) = true ↔ target.Overlooks source)) ∧
    (∀ type : ModelType, type.isBad = true →
      ∀ operation, operation ∈ session.answer (.boundOperations type) ↔
        .operation operation ∈ model.elements ∧ model.OffersBlindly type operation) ∧
    (∀ (container : Option Container) (settings : Settings) (start : Option NavigationSource)
      (chain : Chain) (path : ResourcePath),
      let binder : Binder := ⟨model, container, settings⟩
      binder.bindAt start chain = .ok path →
        ∀ front step back, path.steps = front ++ step :: back →
          Binder.KeepsClear binder (Binder.placeBehind (start.map binder.placeOf) front)
            step.segment) := by
  intro model session
  have hlive : Session.Live model session := Session.live_after model asked
  have hassignable (target source : ModelType) :
      session.answer (.isAssignable target source) = model.isAssignable target source :=
    (Session.gives_isAssignable target source _ hlive).1
  refine ⟨fun target source h => ?_, fun target source h => ?_, fun type h operation => ?_,
    fun container settings start chain path => ?_⟩
  · rw [hassignable, isAssignable_of_isBad_target h]
  · rw [hassignable, isAssignable_of_isBad_source h]
  · have hoperations : session.answer (.boundOperations type) = model.findBoundOperations type :=
      (Session.gives_findBoundOperations type _ hlive).1
    rw [hoperations, findBoundOperations, List.mem_filter, isBoundTo_of_isBad h, operations,
      mem_filterMap_operation?]
  · intro binder h front step back hsteps
    rw [Binder.bindAt_eq] at h
    obtain ⟨-, -, -, hruns⟩ := Binder.bindChain_eq_ok_iff.1 h
    rw [hsteps] at hruns
    obtain ⟨token, hbinds⟩ := hruns.binds_at
    exact Binder.keepsClear_of_binds hbinds

/-- A set of things of a type that does not exist, a function on values of all sorts, and one on
collections of texts. -/
def strays : Declared.Description where
  schemas := [{
    namespaceName := "N"
    functions := [
      { name := "Describe", isBound := true
        parameters := [{ name := "it", typeName := "Edm.Untyped" }]
        returnType := some { typeName := "Edm.String" } },
      { name := "Join", isBound := true
        parameters := [{ name := "it", typeName := "Collection(Edm.String)" }]
        returnType := some { typeName := "Edm.String" } }]
    containers := [{
      name := "Default", entitySets := [{ name := "Strays", entityType := "N.Missing" }] }] }]

/-- The type of unknown values refuses the placeholder itself, and so do collections of texts the
collection of placeholders, on which the one function is found and the other is not. -/
theorem badTypes_apart_strays :
    let model := ofDescription strays
    let session := (Session.start model).after [.validation]
    let bad := model.resolveType "N.Missing"
    let describe : Operation :=
      ⟨0, "N", .function,
        { name := "Describe", isBound := true
          parameters := [{ name := "it", typeName := "Edm.Untyped" }]
          returnType := some { typeName := "Edm.String" } }⟩
    bad.isBad = true ∧ session.answer (.isAssignable .untyped bad) = false ∧
      session.answer (.isAssignable (.collection (.primitive .string)) (.collection bad)) = false ∧
      describe ∈ session.answer (.boundOperations (.collection bad)) := by
  intro model session bad describe
  obtain ⟨-, hassignable, hbound, -⟩ := badTypes_apart strays [.validation]
  have hbad : bad.isBad = true := by decide +kernel
  refine ⟨hbad, Bool.eq_false_iff.2 ?_, Bool.eq_false_iff.2 ?_, ?_⟩
  · rw [Ne, hassignable .untyped bad hbad]
    intro hoverlooks
    have hsingle : bad.isCollection = false := by decide +kernel
    rw [hoverlooks.isCollection] at hsingle
    contradiction
  · rw [Ne, hassignable _ (.collection bad) hbad]
    rintro (_ | hitems)
    cases hitems
  · refine (hbound (.collection bad) hbad describe).2 ⟨by decide +kernel, ?_⟩
    let parameter : Parameter := ⟨0, 0, { name := "it", typeName := "Edm.Untyped" }, {}⟩
    have huntyped : model.parameterType parameter = .untyped := by decide +kernel
    refine ⟨parameter, rfl, ?_⟩
    rw [huntyped]
    exact .untyped hbad

/-- A collection of placeholders is assignable to the type of unknown values, a function on these is
found on it, and a path calls that function on a set of things of a type that does not exist. -/
theorem not_badTypes_apart :
    let model := ofDescription strays
    let session := Session.start model
    let bad := model.resolveType "Collection(N.Missing)"
    bad.isBad = true ∧ session.answer (.isAssignable .untyped bad) = true ∧
      (session.answer (.boundOperations bad)).map Operation.fullName = ["N.Describe"] ∧
      ((Binder.ofModel model {}).bindSegments ["Strays", "N.Describe()"]).map (fun path =>
        path.segments.map fun segment => segment.kind.name) = .ok ["entity set", "operation"] := by
  decide +kernel

end Model
end ResourcePaths
