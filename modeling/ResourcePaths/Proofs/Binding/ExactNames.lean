import ResourcePaths.Proofs.Binding.FirstFault
import ResourcePaths.Proofs.Binding.Rendering

/-!
# Exact names when case is ignored

With case ignored, each look-up prefers a name that matches exactly.  Look-ups that come one after
another do not: an earlier one takes a name that differs in case before a later one is asked for the
exact name, and calls without a namespace take both kinds of names together.  A path that binds
exactly binds to the same when case is ignored, unless such a rival of one of its identifiers is
there.
-/

namespace ResourcePaths

/-! ### Look-ups -/

theorem findNamed?_ignoringCase {α : Type} {nameOf : α → String} {items : List α} {name : String}
    {item : α} (h : findNamed? nameOf items name false = some item) :
    findNamed? nameOf items name true = some item := by
  rcases findNamed?_eq_some_iff.1 h with hexact | ⟨_, hcase, _⟩
  · exact findNamed?_eq_some_iff.2 (.inl hexact)
  · contradiction

theorem Container.findImports_ignoringCase {container : Container} {name : String}
    (h : container.findImports name false ≠ []) :
    container.findImports name true = container.findImports name false := by
  have hexact : container.findImports name false =
      container.imports.filter fun imp => imp.name = name := by
    simp [findImports]
  rw [hexact] at h ⊢
  simp [findImports, h]

namespace Model

variable {model : Model}

theorem find_ignoringCase {name : String} (h : model.find name false ≠ []) :
    model.find name true = model.find name false := by
  simp only [find, idsOf] at h ⊢
  cases hids : model.index.find? (model.normalize (Text.trimmed name)) with
  | some ids => rfl
  | none => simp [hids] at h

theorem typesNamed_of_find {name : String} (h : model.find name false ≠ []) :
    model.typesNamed true name = model.typesNamed false name := by
  rw [typesNamed, typesNamed, find_ignoringCase h]

theorem typesNamed_ignoringCase {name : String} (h : model.typesNamed false name ≠ []) :
    model.typesNamed true name = model.typesNamed false name := by
  cases hprimitive : Primitive.ofName? name with
  | some primitive => simp only [typesNamed, hprimitive]
  | none =>
      apply typesNamed_of_find
      intro hnil
      simp [typesNamed, hprimitive, hnil] at h

theorem fits_ignoringCase {type : ModelType} {literal : Literal}
    (h : model.fits false type literal = true) : model.fits true type literal = true := by
  unfold fits at h ⊢
  cases type with
  | enum enumType =>
      cases literal with
      | enum typeName member =>
          simp only [Bool.and_eq_true, decide_eq_true_eq] at h ⊢
          refine ⟨?_, h.2⟩
          have hne : model.typesNamed false typeName ≠ [] := by
            intro hnil
            simp [onlyTypeNamed?, hnil] at h
          rw [onlyTypeNamed?, typesNamed_ignoringCase hne]
          exact h.1
      | _ => exact h
  | _ => exact h

/-! ### Keys -/

theorem keyProperty_ignoringCase {entity : StructuredType} {key : List StructuralProperty}
    {value : NamedValue} {property : StructuralProperty}
    (h : keyProperty false entity key value = .ok property) :
    keyProperty true entity key value = .ok property := by
  obtain ⟨name, text⟩ := value
  cases name with
  | none => cases key <;> exact h
  | some name =>
      simp only [keyProperty] at h ⊢
      split at h
      · rename_i found hfound
        rw [findNamed?_ignoringCase hfound]
        exact h
      · contradiction

theorem keyValues_ignoringCase {entity : StructuredType} {key : List StructuralProperty}
    {seen : List String} {values : List NamedValue} {found : List KeyValue}
    (h : model.keyValues false entity key seen values = .ok found) :
    model.keyValues true entity key seen values = .ok found := by
  induction values generalizing seen found with
  | nil => exact h
  | cons value rest ih =>
      simp only [keyValues, Outcome.bind_eq_ok_iff] at h ⊢
      obtain ⟨property, hproperty, first, hfirst, others, hothers, heq⟩ := h
      obtain ⟨hseen, literal, hliteral, hfits, hvalue⟩ := keyValue_eq_ok_iff.1 hfirst
      have hagain : model.keyValue true seen property value = .ok first :=
        keyValue_eq_ok_iff.2 ⟨hseen, literal, hliteral, fits_ignoringCase hfits, hvalue⟩
      exact ⟨property, keyProperty_ignoringCase hproperty, first, hagain, others, ih hothers, heq⟩

theorem keyAt_ignoringCase {place : Place} {values : List NamedValue} {found : List KeyValue}
    (h : model.keyAt false place values = .ok found) : model.keyAt true place values = .ok found := by
  obtain ⟨entity, htype, hkind, hcardinality, hentity⟩ := keyAt_eq_ok_iff.1 h
  refine keyAt_eq_ok_iff.2 ⟨entity, htype, hkind, hcardinality, ?_⟩
  simp only [entityKey] at hentity ⊢
  split at hentity
  · contradiction
  · rename_i hcount
    split at hentity
    · contradiction
    · rename_i hnamed
      rw [if_neg hcount, if_neg hnamed]
      exact keyValues_ignoringCase hentity

end Model

/-! ### Rivals -/

/-- Whether the segment is that of a property that is not declared. -/
def Segment.isUndeclared (segment : Segment) : Bool :=
  match segment.kind with
  | .openProperty _ => true
  | _ => false

theorem ResourcePath.segment_mem_segments {path : ResourcePath} {step : Step}
    (h : step ∈ path.steps) : step.segment ∈ path.segments := by
  refine List.mem_flatMap.2 ⟨step, h, ?_⟩
  obtain ⟨segment, key⟩ := step
  cases key <;> exact List.mem_cons_self

/-- The names in a container that are looked at before the one of a first segment: those of entity
sets before a singleton, those of all sources before a call, and those of imports before a call by a
qualified name. -/
def Container.rivals (container : Container) (kind : SegmentKind) : List String :=
  let sources := (container.entitySets ++ container.singletons).map DeclaredSource.name
  match kind with
  | .source source =>
    if source.kind = .singleton then container.entitySets.map DeclaredSource.name else []
  | .imported _ _ _ => sources
  | .operation _ _ => sources ++ container.imports.map OperationImport.name
  | _ => []

namespace Binder

/-- The binder with case ignored. -/
def ignoringCase (binder : Binder) : Binder :=
  { binder with settings := { binder.settings with ignoreCase := true } }

/-- The names that are looked at behind a place before the one of a segment, or together with it:
those of properties before all else, and in a call without a namespace those of the operations that
may be called. -/
def rivalsOn (binder : Binder) (place : Place) (current : ModelType) (identifier : String)
    (kind : SegmentKind) : List String :=
  let properties := current.structured?.elim [] fun type =>
    (binder.model.properties type).map Property.name
  match kind with
  | .navigation _ | .property _ => []
  | .operation _ _ =>
    properties ++
      if Text.mentions identifier '.' then []
      else (binder.model.findBoundOperations (place.cardinality.wrap current)).map (·.decl.name)
  | _ => properties

/-- The names that may take the place of the one that leads a token to its segment. -/
def rivals (binder : Binder) (start : Option Place) (token : Token) (segment : Segment) :
    List String :=
  match start with
  | none => binder.container.elim [] fun container => container.rivals segment.kind
  | some place => place.type.elim [] fun current =>
      binder.rivalsOn place current token.identifier segment.kind

/-- No rival of the segment differs from the identifier in case alone. -/
def Unrivaled (binder : Binder) (start : Option Place) (token : Token) (segment : Segment) : Prop :=
  ∀ name ∈ binder.rivals start token segment, Text.alike name token.identifier = true →
    name = token.identifier

instance (binder : Binder) (start : Option Place) (token : Token) (segment : Segment) :
    Decidable (binder.Unrivaled start token segment) :=
  inferInstanceAs (Decidable (∀ name ∈ binder.rivals start token segment,
    Text.alike name token.identifier = true → name = token.identifier))

/-- The tokens of a path with the places in front of them and the segments that they lead to. -/
def placed : Option Place → List Token → List Step → List (Option Place × Token × Segment)
  | start, token :: tokens, step :: steps =>
    (start, token, step.segment) :: placed (some step.place) tokens steps
  | _, _, _ => []

variable {binder : Binder} {token : Token} {segment : Segment}

/-! ### Steps -/

/-- A rival that does not match a token exactly does not match it up to case. -/
theorem not_matches_of_unrivaled {start : Option Place} {name : String}
    (h : binder.Unrivaled start token segment) (hrival : name ∈ binder.rivals start token segment)
    (hexact : ¬ Text.Matches false name token.identifier) :
    ¬ Text.Matches true name token.identifier := by
  rintro (heq | ⟨_, halike⟩)
  · exact hexact (.inl heq)
  · exact hexact (.inl (h name hrival halike))

theorem bindsRoot_ignoringCase {container : Container} (hcase : binder.settings.ignoreCase = false)
    (hcontainer : binder.container = some container)
    (hclear : binder.Unrivaled none token segment)
    (hsegment : BindsRoot binder container token segment) :
    BindsRoot binder.ignoringCase container token segment := by
  have hrivals : binder.rivals none token segment = container.rivals segment.kind := by
    simp [rivals, hcontainer]
  -- Where sources are rivals, none is found with case ignored if none is found exactly.
  have hnone (hsources : ∀ source ∈ container.entitySets ++ container.singletons,
        source.name ∈ binder.rivals none token segment)
      (hsource : container.findSource? token.identifier false = none) :
      container.findSource? token.identifier true = none := by
    rw [Container.findSource?_eq_none_iff] at hsource ⊢
    intro source hmem
    exact not_matches_of_unrivaled hclear (hsources source hmem) (hsource source hmem)
  cases hsegment with
  | source source hfound =>
      rw [hcase] at hfound
      refine @BindsRoot.source binder.ignoringCase container token source ?_
      show container.findSource? token.identifier true = some source
      rcases Option.or_eq_some_iff.1 hfound with hset | ⟨hset, hsingleton⟩
      · exact Option.or_eq_some_iff.2 (.inl (findNamed?_ignoringCase hset))
      · refine Option.or_eq_some_iff.2 (.inr ⟨?_, findNamed?_ignoringCase hsingleton⟩)
        -- Only an entity set could come before the singleton.
        have hkind := Container.kind_of_mem_singletons (mem_of_findNamed? hsingleton).1
        refine findNamed?_eq_none_iff.2 fun set hmem => ?_
        have hrival : set.name ∈ container.rivals (.source source) := by
          simp only [Container.rivals, hkind, if_true]
          exact List.mem_map_of_mem hmem
        exact not_matches_of_unrivaled hclear (hrivals ▸ hrival)
          (findNamed?_eq_none_iff.1 hset set hmem)
  | imported imp operation hsource hpicked =>
      rw [hcase] at hsource hpicked
      rw [kind_callSegment] at hrivals
      have hnone := hnone (fun source hmem => by
        rw [hrivals]
        exact List.mem_map_of_mem hmem) hsource
      have hne : container.findImports token.identifier false ≠ [] := by
        intro hnil
        have := (Model.mem_of_selectOverload hpicked).1
        rw [hnil] at this
        contradiction
      rw [← Container.findImports_ignoringCase hne] at hpicked
      exact @BindsRoot.imported binder.ignoringCase container token imp operation hnone hpicked
  | unbound operation hsource himport hdotted hpicked =>
      rw [hcase] at hsource himport
      rw [kind_callSegment] at hrivals
      have hnone := hnone (fun source hmem => by
        rw [hrivals]
        exact List.mem_append_left _ (List.mem_map_of_mem hmem)) hsource
      have himports : container.findImports token.identifier true = [] := by
        rw [Container.findImports_eq_nil_iff] at himport ⊢
        intro imp hmem
        refine not_matches_of_unrivaled hclear ?_ (himport imp hmem)
        rw [hrivals]
        exact List.mem_append_right _ (List.mem_map_of_mem hmem)
      have hfind : binder.model.find token.identifier false ≠ [] := by
        intro hnil
        have := (Model.mem_of_selectOverload hpicked).1
        simp [unboundNamed, hcase, hnil] at this
      rw [unboundNamed, hcase, ← Model.find_ignoringCase hfind] at hpicked
      exact @BindsRoot.unbound binder.ignoringCase container token operation hnone himports hdotted
        hpicked

section Behind

variable {place : Place} {current : ModelType}

/-- Where properties are rivals, none is found with case ignored if none is found exactly. -/
theorem propertyNamed?_ignoringCase (hcase : binder.settings.ignoreCase = false)
    (hclear : binder.Unrivaled (some place) token segment)
    (hrivals : ∀ type, current = .structured type → ∀ property ∈ binder.model.properties type,
      property.name ∈ binder.rivals (some place) token segment)
    (h : binder.propertyNamed? current token.identifier = none) :
    binder.ignoringCase.propertyNamed? current token.identifier = none := by
  cases current with
  | structured type =>
      change Property.find? (binder.model.properties type) token.identifier
        binder.settings.ignoreCase = none at h
      show Property.find? (binder.model.properties type) token.identifier true = none
      rw [hcase] at h
      rw [Property.find?_eq_findNamed?, findNamed?_eq_none_iff] at h ⊢
      intro property hmem
      have hrival := hrivals type rfl property (List.mem_reverse.1 hmem)
      exact not_matches_of_unrivaled hclear hrival (h property hmem)
  | primitive | enum | definition | collection | untyped | bad => rfl

/-- What may be called by a qualified name that something has exactly is the same with case ignored,
and it is no type either. -/
theorem boundCandidates_of_dotted (hcase : binder.settings.ignoreCase = false)
    {identifier : String} {type : ModelType} (hdotted : Text.mentions identifier '.' = true)
    (htarget : binder.castTargets identifier = [])
    (hne : binder.boundCandidates identifier type ≠ []) :
    binder.ignoringCase.castTargets identifier = [] ∧
      binder.ignoringCase.boundCandidates identifier type =
        binder.boundCandidates identifier type := by
  have hfind : binder.model.find identifier false ≠ [] := by
    intro hnil
    simp [boundCandidates, hdotted, hcase, hnil] at hne
  simp only [castTargets, boundCandidates, hdotted, if_true, hcase] at htarget ⊢
  constructor
  · exact (Model.typesNamed_of_find hfind).trans htarget
  · show ((binder.model.find identifier true).filterMap Element.operation?).filter _ = _
    rw [Model.find_ignoringCase hfind]
    rfl

/-- What may be called without a namespace is the same with case ignored if all operations that
match have the name itself. -/
theorem boundCandidates_of_not_dotted (hcase : binder.settings.ignoreCase = false)
    {identifier : String} {type : ModelType} (hdotted : Text.mentions identifier '.' = false)
    (hnames : ∀ operation ∈ binder.model.findBoundOperations type,
      Text.alike operation.decl.name identifier = true → operation.decl.name = identifier) :
    binder.ignoringCase.castTargets identifier = [] ∧
      binder.ignoringCase.boundCandidates identifier type =
        binder.boundCandidates identifier type := by
  have hsame : ∀ operation ∈ binder.model.findBoundOperations type,
      (operation.decl.name = identifier ||
          true && Text.alike operation.decl.name identifier) =
        (operation.decl.name = identifier ||
          false && Text.alike operation.decl.name identifier) := by
    intro operation hmem
    cases halike : Text.alike operation.decl.name identifier with
    | false => simp
    | true => simp [hnames operation hmem halike]
  simp only [castTargets, boundCandidates, hdotted, Bool.false_eq_true, if_false, hcase,
    ignoringCase, true_and]
  rw [List.filter_congr hsame]
  rfl

theorem bindsOn_ignoringCase (hcase : binder.settings.ignoreCase = false)
    (htype : place.type = some current)
    (hclear : binder.Unrivaled (some place) token segment)
    (hdeclared : segment.isUndeclared = false)
    (hsegment : BindsOn binder place current token segment) :
    BindsOn binder.ignoringCase place current token segment := by
  have hrivals : binder.rivals (some place) token segment =
      binder.rivalsOn place current token.identifier segment.kind := by
    simp [rivals, htype]
  cases hsegment with
  | property property hfound =>
      obtain ⟨structured, rfl, hproperty⟩ := propertyNamed?_eq_some_iff.1 hfound
      rw [hcase] at hproperty
      refine @BindsOn.property binder.ignoringCase place _ token property ?_
      exact propertyNamed?_eq_some_iff.2 ⟨structured, rfl, findNamed?_ignoringCase hproperty⟩
  | cast target hproperty htarget hassignable =>
      have hnone : binder.ignoringCase.propertyNamed? current token.identifier = none := by
        apply propertyNamed?_ignoringCase hcase hclear ?_ hproperty
        rintro type rfl property hmem
        rw [hrivals]
        exact List.mem_map_of_mem hmem
      refine @BindsOn.cast binder.ignoringCase place _ token target hnone ?_ hassignable
      rw [castTargets] at htarget ⊢
      split at htarget
      · rename_i hdotted
        rw [if_pos hdotted, ← htarget]
        rw [hcase] at htarget ⊢
        apply Model.typesNamed_ignoringCase
        show binder.model.typesNamed false token.identifier ≠ []
        simp [htarget]
      · contradiction
  | call operation hproperty htarget hpicked =>
      rw [kind_callSegment] at hrivals
      have hnone : binder.ignoringCase.propertyNamed? current token.identifier = none := by
        apply propertyNamed?_ignoringCase hcase hclear ?_ hproperty
        rintro type rfl property hmem
        rw [hrivals]
        exact List.mem_append_left _ (List.mem_map_of_mem hmem)
      have hsame : binder.ignoringCase.castTargets token.identifier = [] ∧
          binder.ignoringCase.boundCandidates token.identifier (place.cardinality.wrap current) =
            binder.boundCandidates token.identifier (place.cardinality.wrap current) := by
        cases hdotted : Text.mentions token.identifier '.' with
        | true =>
            apply boundCandidates_of_dotted hcase hdotted htarget
            exact List.ne_nil_of_mem (Model.mem_of_selectOverload hpicked).1
        | false =>
            apply boundCandidates_of_not_dotted hcase hdotted
            intro other hmem halike
            apply hclear other.decl.name ?_ halike
            rw [hrivals]
            apply List.mem_append_right
            simp only [hdotted, Bool.false_eq_true, if_false]
            exact List.mem_map_of_mem hmem
      have hmodel : binder.ignoringCase.model = binder.model := rfl
      rw [← hsame.2] at hpicked
      rw [← resultSource?_of_model hmodel]
      exact @BindsOn.call binder.ignoringCase place _ token operation hnone hsame.1 hpicked
  | undeclared => contradiction

end Behind

/-! ### Paths -/

theorem runs_ignoringCase {start : Option Place} {tokens : List Token} {steps : List Step}
    (hcase : binder.settings.ignoreCase = false) (hruns : Runs binder start tokens steps)
    (hdeclared : ∀ step ∈ steps, step.segment.isUndeclared = false)
    (hclear : ∀ entry ∈ placed start tokens steps, binder.Unrivaled entry.1 entry.2.1 entry.2.2) :
    Runs binder.ignoringCase start tokens steps := by
  induction hruns with
  | nil start => exact .nil start
  | cons hsegment hkey _ ih =>
      rw [placed, List.forall_mem_cons] at hclear
      rw [List.forall_mem_cons] at hdeclared
      refine .cons ?_ ?_ (ih hdeclared.2 hclear.2)
      · cases hsegment with
        | root hcontainer hsegment =>
            exact .root hcontainer (bindsRoot_ignoringCase hcase hcontainer hclear.1 hsegment)
        | next htype hsegment =>
            exact .next htype
              (bindsOn_ignoringCase hcase htype hclear.1 hdeclared.1 hsegment)
      · rw [bindKey_eq_ok_iff, hcase] at hkey
        refine bindKey_eq_ok_iff.2 (hkey.imp_right fun ⟨hvalues, hcall, values, hkeyAt, heq⟩ => ?_)
        exact ⟨hvalues, hcall, values, Model.keyAt_ignoringCase hkeyAt, heq⟩

/-- A path that binds exactly, and not to a property that is not declared, binds to the same when
case is ignored, if its identifiers have no rivals. -/
theorem bindAt_ignoringCase (binder : Binder) (start : Option NavigationSource) (chain : Chain)
    (path : ResourcePath) (hcase : binder.settings.ignoreCase = false)
    (hbind : binder.bindAt start chain = .ok path)
    (hdeclared : ∀ segment ∈ path.segments, segment.isUndeclared = false)
    (hclear : ∀ entry ∈ placed (start.map binder.placeOf) chain.tokens path.steps,
      binder.Unrivaled entry.1 entry.2.1 entry.2.2) :
    binder.ignoringCase.bindAt start chain = .ok path := by
  rw [bindAt_eq] at hbind ⊢
  obtain ⟨hne, hlength, hplain, hruns⟩ := bindChain_eq_ok_iff.1 hbind
  refine bindChain_eq_ok_iff.2 ⟨hne, hlength, hplain, ?_⟩
  have hsteps : ∀ step ∈ path.steps, step.segment.isUndeclared = false :=
    fun step hstep => hdeclared _ (path.segment_mem_segments hstep)
  exact runs_ignoringCase hcase hruns hsteps hclear

/-- Ratings, with names that differ in case: two entity sets, a singleton and an entity set, two
properties, and two functions on ratings. -/
def ratings : Declared.Description where
  schemas := [{
    namespaceName := "N"
    entityTypes := [{
      name := "Rating", key := some ["Id"]
      properties := [
        { name := "Id", typeName := "Edm.Int32" }, { name := "Note", typeName := "Edm.String" },
        { name := "NOTE", typeName := "Edm.Boolean" }] }]
    functions := [
      { name := "weigh", isBound := true, returnType := some { typeName := "N.Rating" }
        parameters := [{ name := "it", typeName := "N.Rating" }] },
      { name := "Weigh", isBound := true, returnType := some { typeName := "Edm.Int32" }
        parameters := [{ name := "it", typeName := "N.Rating" }] }]
    containers := [{
      name := "Default"
      entitySets := [
        { name := "ratings", entityType := "N.Rating" },
        { name := "Ratings", entityType := "N.Rating" },
        { name := "Best", entityType := "N.Rating" }]
      singletons := [{ name := "best", typeName := "N.Rating" }] }] }]

/-- The note on a rating that has been weighed: the names that differ in case stand beside those of
the path, and not in front of them. -/
theorem bindAt_ignoringCase_note :
    let binder : Binder := .ofModel (.ofDescription ratings) {}
    let chain : Chain :=
      .plain "Ratings" [⟨none, "7"⟩] (.plain "N.weigh" [] (.plain "Note" [] .empty))
    ∃ path, binder.bindAt none chain = .ok path ∧
      (∀ segment ∈ path.segments, segment.isUndeclared = false) ∧
      (∀ entry ∈ placed none chain.tokens path.steps,
        binder.Unrivaled entry.1 entry.2.1 entry.2.2) ∧
      binder.ignoringCase.bindAt none chain = .ok path := by
  intro binder chain
  have hpath : ((binder.bindAt none chain).toOption.any fun path =>
      decide ((∀ segment ∈ path.segments, segment.isUndeclared = false) ∧
        ∀ entry ∈ placed none chain.tokens path.steps,
          binder.Unrivaled entry.1 entry.2.1 entry.2.2)) = true := by decide +kernel
  obtain ⟨path, hpath, hall⟩ := (Option.any_eq_true _ _).1 hpath
  obtain ⟨hdeclared, hclear⟩ := of_decide_eq_true hall
  have hbind := Outcome.eq_ok_of_toOption hpath
  exact ⟨path, hbind, hdeclared, hclear,
    bindAt_ignoringCase binder none chain path rfl hbind hdeclared hclear⟩

/-- A name that differs in case takes the place of the exact one: an entity set that of a singleton,
and a function in a call without a namespace, which is then ambiguous. -/
theorem not_bindAt_ignoringCase :
    let best : Chain := .plain "best" [] .empty
    let weigh : Chain := .plain "Ratings" [⟨none, "7"⟩] (.plain "weigh" [] .empty)
    ∀ chain ∈ [best, weigh], ¬ ∀ (binder : Binder) (path : ResourcePath),
      binder.settings.ignoreCase = false → binder.bindAt none chain = .ok path →
      (∀ segment ∈ path.segments, segment.isUndeclared = false) →
      binder.ignoringCase.bindAt none chain = .ok path := by
  intro best weigh chain hchain hall
  let binder : Binder := .ofModel (.ofDescription ratings) { unqualifiedCalls := true }
  have hfails : ∀ chain ∈ [best, weigh], ((binder.bindAt none chain).toOption.any fun path =>
      decide ((∀ segment ∈ path.segments, segment.isUndeclared = false) ∧
        binder.ignoringCase.bindAt none chain ≠ .ok path)) = true := by decide +kernel
  obtain ⟨path, hpath, hfails⟩ := (Option.any_eq_true _ _).1 (hfails chain hchain)
  obtain ⟨hdeclared, hne⟩ := of_decide_eq_true hfails
  exact hne (hall binder path rfl (Outcome.eq_ok_of_toOption hpath) hdeclared)

end Binder
end ResourcePaths
