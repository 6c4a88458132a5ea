import Mathlib.Data.List.Find
import ResourcePaths.Proofs.Binding.ExactNames
import ResourcePaths.Proofs.Binding.Typing

/-!
# Spellings of identifiers

With case ignored, and in a model whose names differ in more than case, every look-up finds the same
under all spellings of a name.  Two parts of a qualified name keep their spelling all the same: a
short name for a namespace, and the name of a primitive type.  Where these stay as they are, other
spellings of the identifiers of a path lead through the same segments.
-/

namespace ResourcePaths

/-! ### Names that differ in more than case -/

/-- Names that are alike are the same. -/
def Text.CaseApart (names : List String) : Prop :=
  ∀ name ∈ names, ∀ other ∈ names, alike name other = true → name = other

instance (names : List String) : Decidable (Text.CaseApart names) :=
  inferInstanceAs (Decidable (∀ name ∈ names, ∀ other ∈ names,
    Text.alike name other = true → name = other))

theorem Text.CaseApart.of_subset {names fewer : List String} (h : Text.CaseApart names)
    (hsubset : fewer ⊆ names) : Text.CaseApart fewer :=
  fun name hname other hother => h name (hsubset hname) other (hsubset hother)

/-- No two of the names are alike. -/
def Text.Unlike (names : List String) : Prop :=
  names.Pairwise fun name other => alike name other = false

instance (names : List String) : Decidable (Text.Unlike names) :=
  inferInstanceAs (Decidable (names.Pairwise fun name other => Text.alike name other = false))

theorem Text.Unlike.caseApart {names : List String} (h : Text.Unlike names) :
    Text.CaseApart names := by
  have hpairs : names.Pairwise fun name other => alike name other = true → name = other := by
    refine h.imp fun hunlike halike => ?_
    rw [hunlike] at halike
    contradiction
  have hflip : names.Pairwise (flip fun name other => alike name other = true → name = other) :=
    hpairs.imp fun himp halike => (himp (alike_symm halike)).symm
  intro name hname other hother
  exact hpairs.forall_of_forall_of_flip (fun _ _ _ => rfl) hflip hname hother

section Named

variable {α : Type} {nameOf : α → String} {items : List α} {name other : String}

/-- Where one item has a name exactly, matching it and matching it up to case are the same. -/
theorem exact_eq_alike (hapart : Text.CaseApart (items.map nameOf)) {item : α}
    (hitem : item ∈ items) (hname : nameOf item = name) :
    ∀ other ∈ items, decide (nameOf other = name) = Text.alike (nameOf other) name := by
  intro other hother
  rw [Bool.eq_iff_iff, decide_eq_true_eq, ← hname]
  constructor
  · intro heq
    rw [heq]
    exact Text.alike_iff.2 rfl
  · exact hapart _ (List.mem_map_of_mem hother) _ (List.mem_map_of_mem hitem)

theorem findNamed?_eq_find?_alike (hapart : Text.CaseApart (items.map nameOf)) :
    findNamed? nameOf items name true = items.find? fun item => Text.alike (nameOf item) name := by
  simp only [findNamed?, if_true]
  cases hexact : items.find? fun item => nameOf item = name with
  | none => rfl
  | some item =>
      have hname : nameOf item = name := by simpa using List.find?_some hexact
      have hmem := List.mem_of_find?_eq_some hexact
      rw [← List.find?_congr (exact_eq_alike hapart hmem hname), hexact]
      rfl

/-- Spellings of a name lead to the same item. -/
theorem findNamed?_alike (hapart : Text.CaseApart (items.map nameOf))
    (halike : Text.alike name other = true) :
    findNamed? nameOf items name true = findNamed? nameOf items other true := by
  rw [findNamed?_eq_find?_alike hapart, findNamed?_eq_find?_alike hapart]
  simp only [Text.alike_congr halike]

/-- The items of a name are those of a name that is alike, if there are any. -/
theorem filter_exact_eq_filter_alike (hapart : Text.CaseApart (items.map nameOf))
    (hne : items.filter (fun item => nameOf item = name) ≠ []) :
    items.filter (fun item => nameOf item = name) =
      items.filter fun item => Text.alike (nameOf item) name := by
  obtain ⟨item, hitem⟩ := List.exists_mem_of_ne_nil _ hne
  obtain ⟨hmem, hname⟩ := List.mem_filter.1 hitem
  exact List.filter_congr (exact_eq_alike hapart hmem (of_decide_eq_true hname))

end Named

/-! ### Qualified names -/

theorem Name.split_alike {name other : String} (h : Text.alike name other = true) :
    Text.alike (Name.split name).1 (Name.split other).1 = true ∧
      Text.alike (Name.split name).2 (Name.split other).2 = true := by
  have hcut := congrArg (Text.cutLast? '.') (Text.alike_iff.1 h)
  rw [Text.cutLast?_fold, Text.cutLast?_fold] at hcut
  simp only [Name.split, Text.alike_iff]
  cases hname : Text.cutLast? '.' name.toList with
  | none =>
      rw [hname, Option.map_none] at hcut
      rw [Option.map_eq_none_iff.1 hcut.symm]
      exact ⟨rfl, Text.alike_iff.1 h⟩
  | some cut =>
      rw [hname, Option.map_some] at hcut
      obtain ⟨cut', hother, heq⟩ := Option.map_eq_some_iff.1 hcut.symm
      rw [hother]
      simp only [String.toList_ofList]
      exact ⟨(congrArg Prod.fst heq).symm, (congrArg Prod.snd heq).symm⟩

namespace Model

/-- Two spellings of a name that differ in case alone.  The parts in front of their last dots stand
for the same namespace, or neither of them is a short name for one; and they are the name of the
same primitive type, or neither of them is the name of one. -/
structure Respells (model : Model) (name other : String) : Prop where
  alike : Text.alike name other = true
  short : model.aliased? (Name.split (Text.trimmed name)).1 =
    model.aliased? (Name.split (Text.trimmed other)).1
  primitive : Primitive.ofName? name = Primitive.ofName? other

variable {model : Model} {name other : String}

theorem Respells.symm (h : model.Respells name other) : model.Respells other name :=
  ⟨Text.alike_symm h.alike, h.short.symm, h.primitive.symm⟩

theorem Respells.mentions_dot (h : model.Respells name other) :
    Text.mentions name '.' = Text.mentions other '.' :=
  Text.mentions_dot_of_alike h.alike

/-- Spellings of a name are so with a namespace in place of the short name for it. -/
theorem Respells.normalize (h : model.Respells name other) :
    Text.alike (model.normalize (Text.trimmed name)) (model.normalize (Text.trimmed other)) =
      true := by
  have htrimmed := Text.alike_trimmed h.alike
  obtain ⟨_, hsimple⟩ := Name.split_alike htrimmed
  simp only [Model.normalize, h.short]
  cases model.aliased? (Name.split (Text.trimmed other)).1 with
  | none => exact htrimmed
  | some namespaceName =>
      -- The namespace is the same, and only the simple names differ.
      rw [Text.alike_iff] at hsimple ⊢
      show Text.fold (Name.qualify _ _).toList = Text.fold (Name.qualify _ _).toList
      unfold Name.qualify
      split
      · exact hsimple
      · simp only [Text.fold, String.toList_append, List.map_append] at hsimple ⊢
        rw [hsimple]

theorem matching_alike (hapart : Text.CaseApart (model.elements.map Element.fullName))
    (halike : Text.alike name other = true) :
    model.matching name true = model.matching other true := by
  have hmatching (full : String) : model.matching full true =
      model.elements.filter fun element => Text.alike element.fullName full := by
    unfold matching
    split
    · rfl
    · rename_i hexact
      exact filter_exact_eq_filter_alike hapart hexact
  rw [hmatching, hmatching]
  simp only [Text.alike_congr halike]

/-- Spellings of a name lead to the same elements. -/
theorem find_respelled (hindexed : model.Indexed)
    (hapart : Text.CaseApart (model.elements.map Element.fullName))
    (h : model.Respells name other) : model.find name true = model.find other true := by
  rw [hindexed.find_eq_matching, hindexed.find_eq_matching]
  exact matching_alike hapart h.normalize

end Model

/-! ### Tokens and segments -/

/-- Two tokens that differ in the spelling of their identifiers alone. -/
structure Token.Respells (model : Model) (token other : Token) : Prop where
  identifier : model.Respells token.identifier other.identifier
  values : token.values = other.values
  system : token.isSystem = other.isSystem

theorem Token.Respells.symm {model : Model} {token other : Token}
    (h : Token.Respells model token other) : Token.Respells model other token :=
  ⟨h.identifier.symm, h.values.symm, h.system.symm⟩

/-- Segments that lead to the same and stand for the same, or for properties that are not declared,
each under its own name. -/
structure Segment.Resembles (segment other : Segment) : Prop where
  kind : segment.kind = other.kind ∨ segment.isUndeclared = true ∧ other.isUndeclared = true
  place : segment.place = other.place

theorem Segment.isCall_of_isUndeclared {segment : Segment} (h : segment.isUndeclared = true) :
    segment.isCall = false := by
  unfold isUndeclared at h
  split at h
  · rename_i name hkind
    simp [isCall, hkind]
  · contradiction

namespace Segment.Resembles

variable {segment other : Segment}

theorem isCall (h : segment.Resembles other) : segment.isCall = other.isCall := by
  rcases h.kind with hkind | ⟨hundeclared, hundeclared'⟩
  · simp only [Segment.isCall, hkind]
  · rw [isCall_of_isUndeclared hundeclared, isCall_of_isUndeclared hundeclared']

/-- A segment of what is declared resembles those alone that stand for the same. -/
theorem agrees (h : segment.Resembles other) (hdeclared : segment.isUndeclared = false) :
    segment.Agrees other := by
  have hkind : segment.kind = other.kind := by
    rcases h.kind with hkind | ⟨hundeclared, -⟩
    · exact hkind
    · rw [hdeclared] at hundeclared
      contradiction
  exact ⟨hkind, congrArg Place.type h.place, congrArg Place.cardinality h.place,
    congrArg Place.source h.place⟩

theorem keyed (h : segment.Resembles other) (values : List KeyValue) :
    (segment.keyed values).Resembles (other.keyed values) := by
  refine ⟨.inl rfl, ?_⟩
  have htype : segment.type = other.type := congrArg Place.type h.place
  have hsource : segment.source = other.source := congrArg Place.source h.place
  simp only [Segment.place, Segment.keyed, htype, hsource]

end Segment.Resembles

/-- Steps to resembling segments with one key. -/
structure Step.Resembles (step other : Step) : Prop where
  segment : step.segment.Resembles other.segment
  key : step.key = other.key

namespace Step.Resembles

variable {step other : Step}

theorem place (h : step.Resembles other) : step.place = other.place := by
  simp only [Step.place, h.key]
  split
  · exact (h.segment.keyed _).place
  · exact h.segment.place

theorem segments (h : step.Resembles other) :
    List.Forall₂ Segment.Resembles step.segments other.segments := by
  simp only [Step.segments, h.key]
  split
  · exact .cons h.segment (.cons (h.segment.keyed _) .nil)
  · exact .cons h.segment .nil

end Step.Resembles

theorem ResourcePath.segments_resemble {path other : ResourcePath}
    (h : List.Forall₂ Step.Resembles path.steps other.steps) :
    List.Forall₂ Segment.Resembles path.segments other.segments :=
  List.rel_flatMap h fun _ _ hstep => hstep.segments

/-! ### The binder -/

/-- The names that paths are looked up by differ in more than case, each in its scope: the qualified
names of all elements, the properties of each type, and the members of the container. -/
structure Binder.CaseApart (binder : Binder) : Prop where
  elements : Text.CaseApart (binder.model.elements.map Element.fullName)
  properties : ∀ type ∈ binder.model.elements.filterMap Element.structured?,
    Text.CaseApart ((binder.model.properties type).map Property.name)
  members : ∀ container ∈ binder.container,
    Text.CaseApart (container.memberNames.map Prod.fst)

theorem Container.findSource?_alike {container : Container} {name other : String}
    (hapart : Text.CaseApart (container.memberNames.map Prod.fst))
    (halike : Text.alike name other = true) :
    container.findSource? name true = container.findSource? other true := by
  have hsources : (container.entitySets ++ container.singletons).map DeclaredSource.name ⊆
      container.memberNames.map Prod.fst := by
    simp only [memberNames, List.map_append, List.map_map, Function.comp_def]
    exact List.subset_append_left _ _
  rw [List.map_append] at hsources
  have hsets := hapart.of_subset (List.append_subset.1 hsources).1
  have hsingletons := hapart.of_subset (List.append_subset.1 hsources).2
  simp only [findSource?, findEntitySet?, findSingleton?]
  rw [findNamed?_alike hsets halike, findNamed?_alike hsingletons halike]

theorem Container.findImports_alike {container : Container} {name other : String}
    (hapart : Text.CaseApart (container.memberNames.map Prod.fst))
    (halike : Text.alike name other = true) :
    container.findImports name true = container.findImports other true := by
  have himports : container.imports.map OperationImport.name ⊆
      container.memberNames.map Prod.fst := by
    simp only [memberNames, List.map_append, List.map_map, Function.comp_def]
    exact List.subset_append_right _ _
  have hfind (name : String) : container.findImports name true =
      container.imports.filter fun imp => Text.alike imp.name name := by
    simp only [findImports, Bool.and_true, List.isEmpty_iff]
    split
    · rfl
    · rename_i hexact
      exact filter_exact_eq_filter_alike (hapart.of_subset himports) hexact
  rw [hfind, hfind]
  simp only [Text.alike_congr halike]

namespace Binder

variable {binder : Binder} {place : Place} {current : ModelType} {token other : Token}
  {segment : Segment}

theorem resembles_callSegment (name again : String) (kind : SegmentKind) (operation : Operation)
    (source : Option NavigationSource) :
    (binder.callSegment name kind operation source).Resembles
      (binder.callSegment again kind operation source) := by
  simp only [callSegment]
  split <;> exact ⟨.inl rfl, rfl⟩

section Respelled

variable (hcase : binder.settings.ignoreCase = true) (hindexed : binder.model.Indexed)
  (hapart : binder.CaseApart) (h : Token.Respells binder.model token other)

include hcase hindexed hapart h

omit hindexed in
theorem propertyNamed?_respelled (hwithin : current.Within binder.model) :
    binder.propertyNamed? current token.identifier =
      binder.propertyNamed? current other.identifier := by
  cases current with
  | structured type =>
      have hmem : type ∈ binder.model.elements.filterMap Element.structured? :=
        List.mem_filterMap.2 ⟨.structured type, hwithin, rfl⟩
      have hnames : Text.CaseApart ((binder.model.properties type).reverse.map Property.name) := by
        refine (hapart.properties type hmem).of_subset ?_
        rw [List.map_reverse]
        exact List.reverse_subset.2 (List.Subset.refl _)
      show Property.find? (binder.model.properties type) token.identifier _ =
        Property.find? (binder.model.properties type) other.identifier _
      rw [hcase, Property.find?_eq_findNamed?, Property.find?_eq_findNamed?]
      exact findNamed?_alike hnames h.identifier.alike
  | primitive | enum | definition | collection | untyped | bad => rfl

theorem castTargets_respelled :
    binder.castTargets token.identifier = binder.castTargets other.identifier := by
  have hfind := Model.find_respelled hindexed hapart.elements h.identifier
  simp only [castTargets, Model.typesNamed, h.identifier.mentions_dot, h.identifier.primitive,
    hcase, hfind]

theorem boundCandidates_respelled (type : ModelType) :
    binder.boundCandidates token.identifier type =
      binder.boundCandidates other.identifier type := by
  have hfind := Model.find_respelled hindexed hapart.elements h.identifier
  -- A name that is the same is alike, too, so that only the latter counts.
  have hnames (name : String) (operation : Operation) :
      (decide (operation.decl.name = name) || true && Text.alike operation.decl.name name) =
        Text.alike operation.decl.name name := by
    by_cases hsame : operation.decl.name = name
    · rw [hsame, Text.alike_iff.2 rfl]
      simp
    · simp [hsame]
  simp only [boundCandidates, h.identifier.mentions_dot, hcase, hfind, hnames]
  simp only [Text.alike_congr h.identifier.alike]

theorem bindsOn_respelled (hwithin : current.Within binder.model)
    (hsegment : BindsOn binder place current token segment) :
    ∃ again, BindsOn binder place current other again ∧ segment.Resembles again := by
  have hproperties := propertyNamed?_respelled hcase hapart h hwithin
  have htargets := castTargets_respelled hcase hindexed hapart h
  have hcandidates := boundCandidates_respelled hcase hindexed hapart h
  cases hsegment with
  | property property hfound =>
      rw [hproperties] at hfound
      refine ⟨_, .property property hfound, ?_⟩
      cases property <;> exact ⟨.inl rfl, rfl⟩
  | cast target hproperty htarget hassignable =>
      rw [hproperties] at hproperty
      rw [htargets] at htarget
      exact ⟨_, .cast target hproperty htarget hassignable, .inl rfl, rfl⟩
  | call operation hproperty htarget hpicked =>
      rw [hproperties] at hproperty
      rw [htargets] at htarget
      rw [hcandidates, h.values] at hpicked
      refine ⟨_, .call operation hproperty htarget hpicked, ?_⟩
      rw [h.values]
      exact resembles_callSegment _ _ _ _ _
  | undeclared hproperty htarget hnone hopen =>
      rw [hproperties] at hproperty
      rw [htargets] at htarget
      rw [hcandidates] at hnone
      exact ⟨_, .undeclared hproperty htarget hnone hopen, .inr ⟨rfl, rfl⟩, rfl⟩

theorem bindsRoot_respelled {container : Container} (hcontainer : binder.container = some container)
    (hsegment : BindsRoot binder container token segment) :
    ∃ again, BindsRoot binder container other again ∧ segment.Resembles again := by
  have hmembers := hapart.members container hcontainer
  have hsources := Container.findSource?_alike hmembers h.identifier.alike
  have himports := Container.findImports_alike hmembers h.identifier.alike
  have hunbound : binder.unboundNamed token.identifier = binder.unboundNamed other.identifier := by
    simp only [unboundNamed, hcase, Model.find_respelled hindexed hapart.elements h.identifier]
  rw [← hcase] at hsources himports
  cases hsegment with
  | source source hfound =>
      rw [hsources] at hfound
      exact ⟨_, .source source hfound, .inl rfl, rfl⟩
  | imported imp operation hsource hpicked =>
      rw [hsources] at hsource
      rw [himports, h.values] at hpicked
      refine ⟨_, .imported imp operation hsource hpicked, ?_⟩
      rw [h.values]
      exact resembles_callSegment _ _ _ _ _
  | unbound operation hsource himport hdotted hpicked =>
      rw [hsources] at hsource
      rw [himports] at himport
      rw [h.identifier.mentions_dot] at hdotted
      rw [hunbound, h.values] at hpicked
      refine ⟨_, .unbound operation hsource himport hdotted hpicked, ?_⟩
      rw [h.values]
      exact resembles_callSegment _ _ _ _ _

/-- A token that can be bound can be bound in another spelling, to a segment that resembles the one
before. -/
theorem binds_respelled {start : Option Place}
    (hstart : ∀ place ∈ start, ∀ type ∈ place.type, type.Within binder.model)
    (hsegment : Binds binder token start segment) :
    ∃ again, Binds binder other start again ∧ segment.Resembles again := by
  cases hsegment with
  | root hcontainer hsegment =>
      obtain ⟨again, hagain, hresembles⟩ :=
        bindsRoot_respelled hcase hindexed hapart h hcontainer hsegment
      exact ⟨again, .root hcontainer hagain, hresembles⟩
  | next htype hsegment =>
      obtain ⟨again, hagain, hresembles⟩ :=
        bindsOn_respelled hcase hindexed hapart h (hstart _ rfl _ htype) hsegment
      exact ⟨again, .next htype hagain, hresembles⟩

end Respelled

/-- The key behind a segment is also behind one that resembles it. -/
theorem bindKey_resembles {again : Segment} (hresembles : segment.Resembles again)
    (hvalues : token.values = other.values) :
    binder.bindKey segment token = binder.bindKey again other := by
  simp only [bindKey, hresembles.isCall, hresembles.place, hvalues]

/-! ### Paths -/

/-- Tokens that can be gone through can be gone through in other spellings, from the same start and
by steps that resemble those before. -/
theorem runs_respelled (hcase : binder.settings.ignoreCase = true)
    (hindexed : binder.model.Indexed) (hapart : binder.CaseApart) {start : Option Place}
    {tokens others : List Token} {steps : List Step}
    (hstart : ∀ place ∈ start, ∀ type ∈ place.type, type.Within binder.model)
    (hothers : List.Forall₂ (Token.Respells binder.model) tokens others)
    (hruns : Runs binder start tokens steps) :
    ∃ again, Runs binder start others again ∧ List.Forall₂ Step.Resembles steps again := by
  -- The types on the way are types of the model, whose properties differ in more than case.
  induction hruns generalizing others with
  | nil start =>
      cases hothers with
      | nil => exact ⟨[], .nil start, .nil⟩
  | @cons start token step rest steps hsegment hkey _ ih =>
      cases hothers with
      | cons hother hrest =>
          obtain ⟨segment, hagain, hresembles⟩ :=
            binds_respelled hcase hindexed hapart hother hstart hsegment
          have hstep : step.Resembles ⟨segment, step.key⟩ := ⟨hresembles, rfl⟩
          have hplace : ∀ place ∈ some step.place, ∀ type ∈ place.type,
              type.Within binder.model := by
            rintro _ ⟨rfl⟩
            rw [step.type_place]
            exact binds_within hindexed hsegment
          obtain ⟨again, hrunsAgain, hall⟩ := ih hplace hrest
          rw [hstep.place] at hrunsAgain
          rw [bindKey_resembles hresembles hother.values] at hkey
          exact ⟨_, .cons hagain hkey hrunsAgain, .cons hstep hall⟩

theorem bindAt_resembles (hcase : binder.settings.ignoreCase = true)
    (hindexed : binder.model.Indexed) (hapart : binder.CaseApart) {start : Option NavigationSource}
    {chain again : Chain} {path : ResourcePath}
    (hagain : List.Forall₂ (Token.Respells binder.model) chain.tokens again.tokens)
    (hbind : binder.bindAt start chain = .ok path) :
    ∃ found, binder.bindAt start again = .ok found ∧
      List.Forall₂ Segment.Resembles path.segments found.segments := by
  rw [bindAt_eq] at hbind ⊢
  obtain ⟨hne, hfew, hplain, hruns⟩ := bindChain_eq_ok_iff.1 hbind
  have hstart : ∀ place ∈ start.map binder.placeOf, ∀ type ∈ place.type,
      type.Within binder.model := by
    intro place hplace
    obtain ⟨source, -, rfl⟩ := Option.map_eq_some_iff.1 hplace
    exact placeOf_within source
  obtain ⟨steps, hrunsAgain, hsteps⟩ := runs_respelled hcase hindexed hapart hstart hagain hruns
  have hlength := hagain.length_eq
  have hplainAgain : List.Forall₂ (fun other token : Token => other.isSystem = false ∧
      Token.Respells binder.model token other) again.tokens chain.tokens := by
    have hboth := (List.forall₂_and_left chain.tokens again.tokens).2 ⟨hplain, hagain⟩
    exact hboth.flip.imp fun other token ⟨hsystem, h⟩ => ⟨h.system ▸ hsystem, h⟩
  refine ⟨⟨steps⟩, bindChain_eq_ok_iff.2 ⟨?_, ?_, ?_, hrunsAgain⟩,
    ResourcePath.segments_resemble hsteps⟩
  · rw [← List.length_pos_iff, ← hlength, List.length_pos_iff]
    exact hne
  · rw [← hlength]
    exact hfew
  · exact ((List.forall₂_and_left _ _).1 hplainAgain).1

/-- With case ignored, and in a model whose names differ in more than case, other spellings of the
identifiers of a path bind exactly if these do, and then to the same segments, unless one of them is
that of a property that is not declared. -/
theorem bindAt_respelled (description : Declared.Description) (container : Option Container)
    (settings : Settings) (hcase : settings.ignoreCase = true)
    (hapart : CaseApart ⟨.ofDescription description, container, settings⟩)
    (start : Option NavigationSource) (chain again : Chain)
    (hagain : List.Forall₂ (Token.Respells (.ofDescription description)) chain.tokens
      again.tokens) :
    let binder : Binder := ⟨.ofDescription description, container, settings⟩
    ((∃ path, binder.bindAt start chain = .ok path) ↔
        ∃ path, binder.bindAt start again = .ok path) ∧
      ∀ path, binder.bindAt start chain = .ok path →
        (∀ segment ∈ path.segments, segment.isUndeclared = false) →
          ∃ found, binder.bindAt start again = .ok found ∧
            List.Forall₂ Segment.Agrees path.segments found.segments := by
  intro binder
  have hindexed : binder.model.Indexed := Model.indexed_ofDescription description
  have hback : List.Forall₂ (Token.Respells binder.model) again.tokens chain.tokens :=
    hagain.flip.imp fun _ _ h => h.symm
  refine ⟨⟨?_, ?_⟩, ?_⟩
  · rintro ⟨path, hbind⟩
    obtain ⟨found, hfound, -⟩ := bindAt_resembles hcase hindexed hapart hagain hbind
    exact ⟨found, hfound⟩
  · rintro ⟨path, hbind⟩
    obtain ⟨found, hfound, -⟩ := bindAt_resembles hcase hindexed hapart hback hbind
    exact ⟨found, hfound⟩
  · intro path hbind hdeclared
    obtain ⟨found, hfound, hresembles⟩ := bindAt_resembles hcase hindexed hapart hagain hbind
    have hboth := (List.forall₂_and_left _ _).2 ⟨hdeclared, hresembles⟩
    exact ⟨found, hfound, hboth.imp fun _ _ ⟨hsegment, h⟩ => h.agrees hsegment⟩

/-- No two names that a description gives in one scope are alike. -/
structure NamesUnlike (description : Declared.Description) : Prop where
  schemas : Text.Unlike (description.schemas.map Declared.Schema.namespaceName ++
    description.schemas.filterMap Declared.Schema.shortName)
  elements : Text.Unlike ((Model.ofDescription description).elements.map Element.fullName)
  properties : ∀ type ∈ (Model.ofDescription description).elements.filterMap Element.structured?,
    Text.Unlike (((Model.ofDescription description).properties type).map Property.name)
  parameters : ∀ operation ∈ (Model.ofDescription description).operations,
    Text.Unlike (operation.decl.parameters.map Declared.Parameter.name)
  members : ∀ container ∈ (Model.ofDescription description).containers,
    Text.Unlike (container.memberNames.map Prod.fst)

theorem NamesUnlike.caseApart {description : Declared.Description} (h : NamesUnlike description)
    (settings : Settings) : (ofModel (.ofDescription description) settings).CaseApart := by
  refine ⟨h.elements.caseApart, fun type htype => (h.properties type htype).caseApart, ?_⟩
  intro container hcontainer
  obtain ⟨element, hmem, hfound⟩ := List.exists_of_findSome?_eq_some hcontainer
  exact (h.members container (List.mem_filterMap.2 ⟨element, hmem, hfound⟩)).caseApart

/-- Things, some of them books, in a namespace with a short name. -/
def shop : Declared.Description where
  schemas := [{
    namespaceName := "Shop", shortName := some "S"
    entityTypes := [
      { name := "Thing", key := some ["Id"]
        properties := [
          { name := "Id", typeName := "Edm.Int32" },
          { name := "Title", typeName := "Edm.String" }] },
      { name := "Book", baseType := some "Shop.Thing" }]
    containers := [{
      name := "Default", entitySets := [{ name := "Things", entityType := "Shop.Thing" }] }] }]

theorem namesUnlike_shop : NamesUnlike shop := by
  constructor <;> decide +kernel

/-- The title of a book, in small letters and as its names are declared. -/
theorem bindAt_respelled_title :
    let binder : Binder := .ofModel (.ofDescription shop) { ignoreCase := true }
    let chain : Chain :=
      .plain "things" [⟨none, "1"⟩] (.plain "S.book" [] (.plain "title" [] .empty))
    let again : Chain :=
      .plain "Things" [⟨none, "1"⟩] (.plain "S.Book" [] (.plain "Title" [] .empty))
    List.Forall₂ (Token.Respells binder.model) chain.tokens again.tokens ∧
      ∃ path found, binder.bindAt none chain = .ok path ∧ binder.bindAt none again = .ok found ∧
        List.Forall₂ Segment.Agrees path.segments found.segments := by
  intro binder chain again
  have hpath : ((binder.bindAt none chain).toOption.any fun path =>
      path.segments.all fun segment => !segment.isUndeclared) = true := by decide +kernel
  obtain ⟨path, hpath, hdeclared⟩ := (Option.any_eq_true _ _).1 hpath
  have hbind := Outcome.eq_ok_of_toOption hpath
  have hagain : List.Forall₂ (Token.Respells binder.model) chain.tokens again.tokens := by
    refine .cons ⟨⟨?_, ?_, ?_⟩, rfl, rfl⟩ (.cons ⟨⟨?_, ?_, ?_⟩, rfl, rfl⟩
      (.cons ⟨⟨?_, ?_, ?_⟩, rfl, rfl⟩ .nil)) <;> decide +kernel
  obtain ⟨-, hsame⟩ := bindAt_respelled shop binder.container { ignoreCase := true } rfl
    (namesUnlike_shop.caseApart _) none chain again hagain
  obtain ⟨found, hfound, hagrees⟩ := hsame path hbind (by simpa using hdeclared)
  exact ⟨hagain, path, found, hbind, hfound, hagrees⟩

/-- Unlike names are not enough: a short name for a namespace and the name of a primitive type are
found in one spelling alone. -/
theorem not_bindAt_respelled :
    let book (name : String) : Chain := .plain "Things" [] (.plain name [] .empty)
    let title (name : String) : Chain :=
      .plain "Things" [⟨none, "1"⟩] (.plain "Title" [] (.plain name [] .empty))
    ∀ spellings ∈ [(book "S.Book", book "s.Book"), (title "Edm.String", title "edm.string")],
      List.Forall₂ (fun token other => Text.alike token.identifier other.identifier = true ∧
        token.values = other.values) spellings.1.tokens spellings.2.tokens ∧
      ¬ ∀ (description : Declared.Description) (settings : Settings),
        NamesUnlike description → settings.ignoreCase = true →
          let binder : Binder := .ofModel (.ofDescription description) settings
          (∃ path, binder.bindAt none spellings.1 = .ok path) →
            ∃ path, binder.bindAt none spellings.2 = .ok path := by
  intro book title spellings hmem
  let binder : Binder := .ofModel (.ofDescription shop) { ignoreCase := true }
  have hfails : ∀ spellings ∈
      [(book "S.Book", book "s.Book"), (title "Edm.String", title "edm.string")],
      (binder.bindAt none spellings.1).toOption.isSome = true ∧
        (binder.bindAt none spellings.2).toOption = none := by decide +kernel
  obtain ⟨hbinds, hnone⟩ := hfails spellings hmem
  constructor
  · simp only [List.mem_cons, List.not_mem_nil, or_false] at hmem
    rcases hmem with rfl | rfl
    · exact .cons ⟨by decide, rfl⟩ (.cons ⟨by decide, rfl⟩ .nil)
    · exact .cons ⟨by decide, rfl⟩ (.cons ⟨by decide, rfl⟩ (.cons ⟨by decide, rfl⟩ .nil))
  · intro hall
    obtain ⟨path, hpath⟩ := Option.isSome_iff_exists.1 hbinds
    obtain ⟨found, hfound⟩ :=
      hall shop _ namesUnlike_shop rfl ⟨path, Outcome.eq_ok_of_toOption hpath⟩
    rw [hfound] at hnone
    contradiction

end Binder
end ResourcePaths
