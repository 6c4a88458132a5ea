import Mathlib.Data.List.Nodup
import ResourcePaths.Proofs.Binding.Rendering
import ResourcePaths.Proofs.Binding.Typing
import ResourcePaths.Proofs.Model.Imports

/-!
# Calls of imports

A call by the name of imports is a choice among operations, each of which comes with the import
that exposes it.  In a container without problems the imports of one name import one operation, so
that what is called depends on the operations that take the arguments, and on how many imports of
their kind there are.
-/

namespace ResourcePaths

/-! ### Arguments -/

namespace Argument

variable {arguments : List Argument} {names : List String}

theorem repeated?_eq_none_iff :
    repeated? arguments = none ↔ (arguments.filterMap Argument.name).Nodup := by
  rw [repeated?, List.head?_eq_none_iff, repeatedBy_eq_nil_iff, List.map_id]
  simp

theorem filterMap_name_of_names? (h : names? arguments = some names) :
    arguments.filterMap Argument.name = names := by
  have hmap := congrArg (List.filterMap id) (Binder.map_name_of_names? h)
  rwa [List.filterMap_map, List.filterMap_map, Function.id_comp, Function.id_comp,
    List.filterMap_some] at hmap

theorem filterMap_name_ofValues (values : List NamedValue) :
    (ofValues values).filterMap Argument.name = values.filterMap NamedValue.name := by
  rw [ofValues, List.filterMap_map]
  rfl

end Argument

namespace Operation

/-- What a call has to give: an action asks for nothing; a function asks for its own parameters by
their names, where all that is given has a name, and otherwise for as many as it has. -/
def Suits (operation : Operation) (arguments : List Argument) : Prop :=
  operation.kind = .action ∨
    operation.NamesAgree arguments ∧
      (Argument.names? arguments = none →
        operation.callParameters.length = arguments.length)

variable {operation : Operation} {arguments : List Argument}

/-- Names decide as sets, since none of them comes twice on either side. -/
theorem takes_iff_suits (hdeclared : (operation.callParameters.map (·.decl.name)).Nodup)
    (hgiven : (arguments.filterMap Argument.name).Nodup) :
    operation.takes arguments = true ↔ operation.Suits arguments := by
  constructor
  · intro htakes
    have hadmits := Binder.admits_of_takes htakes
    cases hkind : operation.kind with
    | action => exact .inl hkind
    | function =>
        exact .inr ⟨hadmits.agree hkind hdeclared, fun _ => hadmits.count hkind⟩
  · rintro (haction | ⟨hagree, hcount⟩)
    · rw [takes, haction]
      rfl
    · rw [takes]
      cases hnames : Argument.names? arguments with
      | none => simp [hcount hnames]
      | some names =>
          -- Two lists without repetition that hold the same names are equally long.
          have hsame := hagree names hnames
          rw [Argument.filterMap_name_of_names? hnames] at hgiven
          have hlength := ((List.perm_ext_iff_of_nodup hgiven hdeclared).2 hsame).length_eq
          rw [List.length_map, Binder.length_of_names? hnames] at hlength
          have hall : ∀ parameter ∈ operation.callParameters, parameter.decl.name ∈ names :=
            fun parameter hmem => (hsame _).2 (List.mem_map_of_mem hmem)
          simpa [hlength] using .inr hall

end Operation

/-! ### Choices -/

namespace Model

variable {α : Type} {model : Model} {operationOf : α → Operation} {arguments : List Argument}
  {candidates : List α} {candidate other : α}

theorem selectOverload_eq_notFound (hrepeated : Argument.repeated? arguments = none)
    (h : ∀ candidate ∈ candidates, (operationOf candidate).takes arguments = false) :
    model.selectOverload operationOf none arguments candidates =
      .error (.notFound (.overloads arguments.length)) := by
  have hnone : (candidates.filter fun candidate => (operationOf candidate).takes arguments) = [] :=
    List.filter_eq_nil_iff.2 fun candidate hmem => by simp [h candidate hmem]
  simp only [selectOverload, hrepeated, preferExact, hnone]

theorem selectOverload_eq_ok (hrepeated : Argument.repeated? arguments = none)
    (hnodup : candidates.Nodup) (hmem : candidate ∈ candidates)
    (htakes : (operationOf candidate).takes arguments = true)
    (honly : ∀ other ∈ candidates, (operationOf other).takes arguments = true →
      other = candidate) :
    model.selectOverload operationOf none arguments candidates = .ok candidate := by
  refine selectOverload_eq_ok_iff.2 ⟨hrepeated, List.perm_singleton.1 ?_⟩
  refine (List.perm_ext_iff_of_nodup (hnodup.filter _) (List.nodup_singleton _)).2 fun other => ?_
  rw [List.mem_filter, List.mem_singleton]
  constructor
  · rintro ⟨hother, htaken⟩
    exact honly other hother htaken
  · rintro rfl
    exact ⟨hmem, htakes⟩

theorem selectOverload_eq_ambiguous (hrepeated : Argument.repeated? arguments = none)
    (hmem : candidate ∈ candidates) (htakes : (operationOf candidate).takes arguments = true)
    (hother : other ∈ candidates) (htaken : (operationOf other).takes arguments = true)
    (hne : candidate ≠ other) :
    ∃ signatures, model.selectOverload operationOf none arguments candidates =
      .error (.ambiguous signatures) := by
  have hfirst : candidate ∈ candidates.filter fun found => (operationOf found).takes arguments :=
    List.mem_filter.2 ⟨hmem, htakes⟩
  have hsecond : other ∈ candidates.filter fun found => (operationOf found).takes arguments :=
    List.mem_filter.2 ⟨hother, htaken⟩
  simp only [selectOverload, hrepeated, preferExact]
  split
  · rename_i hnone
    rw [hnone] at hfirst
    contradiction
  · rename_i found hfound
    rw [hfound, List.mem_singleton] at hfirst hsecond
    exact absurd (hfirst.trans hsecond.symm) hne
  · exact ⟨_, rfl⟩

end Model

namespace Binder

variable {binder : Binder} {container : Container} {token : Token}
  {imports : List OperationImport} {imp other : OperationImport}
  {operation otherOperation : Operation}

/-! ### Operations with their imports -/

theorem mem_importedCandidates :
    (imp, operation) ∈ binder.importedCandidates imports ↔
      imp ∈ imports ∧ operation ∈ binder.model.importedOperations imp := by
  simp [importedCandidates]

theorem nodup_importedCandidates (hindexed : binder.model.Indexed) (himports : imports.Nodup) :
    (binder.importedCandidates imports).Nodup := by
  refine List.nodup_flatMap.2 ⟨fun imp _ => ?_, himports.imp fun hne => ?_⟩
  · exact (hindexed.nodup_importedOperations imp).map fun _ _ heq => (Prod.mk.inj heq).2
  · -- Candidates of two imports differ in the import.
    intro candidate hfirst hsecond
    obtain ⟨_, -, rfl⟩ := List.mem_map.1 hfirst
    obtain ⟨_, -, heq⟩ := List.mem_map.1 hsecond
    exact hne (Prod.mk.inj heq).1.symm

/-- The operations that the imports of the name of a token expose, each with its import. -/
def candidatesFor (binder : Binder) (container : Container) (token : Token) :
    List (OperationImport × Operation) :=
  binder.importedCandidates (container.imports.filter fun imp => imp.name = token.identifier)

/-- An import that has the name of a token, and an operation of it that takes the arguments of the
token. -/
structure Accepts (binder : Binder) (container : Container) (token : Token)
    (imp : OperationImport) (operation : Operation) : Prop where
  declared : imp ∈ container.imports
  name : imp.name = token.identifier
  exposed : operation ∈ binder.model.importedOperations imp
  takes : operation.takes (Argument.ofValues token.values) = true

theorem accepts_iff :
    Accepts binder container token imp operation ↔
      (imp, operation) ∈ binder.candidatesFor container token ∧
        operation.takes (Argument.ofValues token.values) = true := by
  rw [candidatesFor, mem_importedCandidates, List.mem_filter, decide_eq_true_eq]
  constructor
  · intro h
    exact ⟨⟨⟨h.declared, h.name⟩, h.exposed⟩, h.takes⟩
  · rintro ⟨⟨⟨hdeclared, hname⟩, hexposed⟩, htakes⟩
    exact ⟨hdeclared, hname, hexposed, htakes⟩

/-- Operations of two imports of one kind that import the same are the same. -/
theorem importedOperations_congr (hindexed : binder.model.Indexed)
    (hname : other.operationName = imp.operationName) (hkind : other.kind = imp.kind) :
    binder.model.importedOperations other = binder.model.importedOperations imp := by
  rw [hindexed.importedOperations_eq, hindexed.importedOperations_eq, hname]
  refine List.filter_congr fun operation _ => ?_
  simp only [OperationImport.accepts, hkind]

theorem kind_of_mem_importedOperations (hindexed : binder.model.Indexed)
    (h : operation ∈ binder.model.importedOperations imp) : operation.kind = imp.kind := by
  rw [hindexed.importedOperations_eq] at h
  have haccepts := (List.mem_filter.1 h).2
  simp only [OperationImport.accepts, Bool.and_eq_true, decide_eq_true_eq] at haccepts
  exact haccepts.1

/-- What an import of a name accepts, so does every other import of that name and kind. -/
theorem accepts_of_sameKind (hindexed : binder.model.Indexed)
    (hclashes : Container.clashes [] container.memberNames = [])
    (h : Accepts binder container token imp operation) (hother : other ∈ container.imports)
    (hname : other.name = imp.name) (hkind : other.kind = imp.kind) :
    Accepts binder container token other operation where
  declared := hother
  name := hname.trans h.name
  exposed := by
    have himported :=
      Container.operationName_eq_of_mem_imports hclashes h.declared hother hname
    rw [importedOperations_congr hindexed himported hkind]
    exact h.exposed
  takes := h.takes

/-! ### Calls -/

/-- The segment of a call of an operation through an import. -/
def importSegment (binder : Binder) (token : Token) (imp : OperationImport)
    (operation : Operation) : Segment :=
  binder.callSegment token.identifier (.imported imp operation (Argument.ofValues token.values))
    operation ((binder.model.importedSet? imp).map .declared)

/-- A call is no place for a key. -/
theorem finishStep_importSegment :
    binder.finishStep token (binder.importSegment token imp operation) =
      .ok ⟨binder.importSegment token imp operation, none⟩ := by
  have hcall : (binder.importSegment token imp operation).isCall = true := isCall_imported ..
  exact finishStep_eq_ok_iff.2 ⟨rfl, bindKey_eq_ok_iff.2 (.inl ⟨.inr hcall, rfl⟩)⟩

/-- A token that names imports of a container without clashes. -/
structure NamesImport (binder : Binder) (container : Container) (token : Token) : Prop where
  rooted : binder.container = some container
  clashes : Container.clashes [] container.memberNames = []
  exact : binder.settings.ignoreCase = false
  name : token.identifier ∈ container.imports.map OperationImport.name

/-- The imports of a name are asked, since no source has it, and their answer is what the token
binds to. -/
theorem NamesImport.bindTokens_eq (h : NamesImport binder container token) :
    binder.bindTokens none [token] =
      match binder.model.selectOverload Prod.snd none (Argument.ofValues token.values)
        (binder.candidatesFor container token) with
      | .ok (imp, operation) => .ok [⟨binder.importSegment token imp operation, none⟩]
      | .error fault => .error (.token 0 token.identifier fault) := by
  obtain ⟨named, hnamed, hidentifier⟩ := List.mem_map.1 h.name
  have hsource : container.findSource? token.identifier binder.settings.ignoreCase = none := by
    rw [h.exact, ← hidentifier]
    exact Container.findSource?_of_mem_imports h.clashes hnamed
  have hfound : container.findImports token.identifier binder.settings.ignoreCase =
      container.imports.filter fun imp => imp.name = token.identifier := by
    rw [← hidentifier]
    exact Container.findImports_of_mem hnamed _
  have hmem : named ∈ container.imports.filter fun imp => imp.name = token.identifier :=
    List.mem_filter.2 ⟨hnamed, decide_eq_true hidentifier⟩
  obtain ⟨first, others, himports⟩ := List.exists_cons_of_ne_nil (List.ne_nil_of_mem hmem)
  rw [bindTokens_single h.rooted, candidatesFor]
  simp only [bindRoot, hsource, hfound, himports, bindImport]
  cases binder.model.selectOverload Prod.snd none (Argument.ofValues token.values)
    (binder.importedCandidates (first :: others)) with
  | error fault => rfl
  | ok candidate =>
      obtain ⟨imp, operation⟩ := candidate
      change (faultAt 0 token (binder.finishStep token
        (binder.importSegment token imp operation))).map (fun step => [step]) = _
      rw [finishStep_importSegment]
      rfl

/-- Two candidates that take the arguments are one too many, even if their operations are one. -/
theorem NamesImport.bindTokens_ambiguous (h : NamesImport binder container token)
    (hrepeated : Argument.repeated? (Argument.ofValues token.values) = none)
    (hfirst : Accepts binder container token imp operation)
    (hsecond : Accepts binder container token other otherOperation)
    (hne : (imp, operation) ≠ (other, otherOperation)) :
    ∃ signatures, binder.bindTokens none [token] =
      .error (.token 0 token.identifier (.ambiguous signatures)) := by
  obtain ⟨hcandidate, htakes⟩ := accepts_iff.1 hfirst
  obtain ⟨hothers, htaken⟩ := accepts_iff.1 hsecond
  obtain ⟨signatures, hpicked⟩ : ∃ signatures, binder.model.selectOverload Prod.snd none
      (Argument.ofValues token.values) (binder.candidatesFor container token) =
        .error (.ambiguous signatures) :=
    Model.selectOverload_eq_ambiguous hrepeated hcandidate htakes hothers htaken hne
  exact ⟨signatures, by rw [h.bindTokens_eq, hpicked]⟩

/-- How a call by the name of imports comes out, by the operations that take its arguments. -/
structure CallsByOperation (binder : Binder) (container : Container) (token : Token) : Prop where
  /-- Which operations take the arguments, where no two parameters have one name. -/
  suits : ∀ operation : Operation, (operation.callParameters.map (·.decl.name)).Nodup →
    (operation.takes (Argument.ofValues token.values) = true ↔
      operation.Suits (Argument.ofValues token.values))
  missing : (∀ imp operation, ¬ Accepts binder container token imp operation) →
    binder.bindTokens none [token] =
      .error (.token 0 token.identifier (.notFound (.overloads token.values.length)))
  /-- One operation, of the only import of that name and of its kind. -/
  picked : ∀ imp operation, Accepts binder container token imp operation →
    (∀ other otherOperation, Accepts binder container token other otherOperation →
      otherOperation = operation) →
    (∀ other ∈ container.imports, other.name = imp.name → other.kind = imp.kind → other = imp) →
    binder.bindTokens none [token] = .ok [⟨binder.importSegment token imp operation, none⟩]
  /-- Several imports of that name and kind expose the same, and count apart. -/
  doubled : ∀ imp operation, Accepts binder container token imp operation →
    ∀ other ∈ container.imports, other.name = imp.name → other.kind = imp.kind → other ≠ imp →
    ∃ signatures, binder.bindTokens none [token] =
      .error (.token 0 token.identifier (.ambiguous signatures))
  several : ∀ imp operation other otherOperation, Accepts binder container token imp operation →
    Accepts binder container token other otherOperation → otherOperation ≠ operation →
    ∃ signatures, binder.bindTokens none [token] =
      .error (.token 0 token.identifier (.ambiguous signatures))

/-- A call by the name of imports, in a container without problems. -/
theorem bindTokens_import (description : Declared.Description) (container : Container)
    (settings : Settings) (token : Token)
    (herrors : (Model.ofDescription description).containerErrors container = [])
    (hexact : settings.ignoreCase = false)
    (hname : token.identifier ∈ container.imports.map OperationImport.name)
    (hgiven : (token.values.filterMap NamedValue.name).Nodup) :
    CallsByOperation ⟨.ofDescription description, some container, settings⟩ container token := by
  let binder : Binder := ⟨.ofDescription description, some container, settings⟩
  have hindexed : binder.model.Indexed := Model.indexed_ofDescription description
  have hclashes := Container.clashes_of_gatherErrors herrors
  have hnamed : NamesImport binder container token := ⟨rfl, hclashes, hexact, hname⟩
  have hnames : ((Argument.ofValues token.values).filterMap Argument.name).Nodup := by
    rwa [Argument.filterMap_name_ofValues]
  have hrepeated := Argument.repeated?_eq_none_iff.2 hnames
  refine ⟨fun operation hdeclared => Operation.takes_iff_suits hdeclared hnames, ?missing,
    ?picked, ?doubled, ?several⟩
  case missing =>
    intro hnone
    have htaken : ∀ candidate ∈ binder.candidatesFor container token,
        candidate.2.takes (Argument.ofValues token.values) = false := by
      intro candidate hcandidate
      rw [Bool.eq_false_iff]
      exact fun htakes => hnone _ _ (accepts_iff.2 ⟨hcandidate, htakes⟩)
    rw [hnamed.bindTokens_eq, Model.selectOverload_eq_notFound hrepeated htaken,
      Argument.ofValues, List.length_map]
  case picked =>
    intro imp operation h honly hsole
    obtain ⟨hcandidate, htakes⟩ := accepts_iff.1 h
    have hnodup : (binder.candidatesFor container token).Nodup :=
      nodup_importedCandidates hindexed (container.nodup_imports.filter _)
    have hunique : ∀ candidate ∈ binder.candidatesFor container token,
        candidate.2.takes (Argument.ofValues token.values) = true →
          candidate = (imp, operation) := by
      intro candidate hother htaken
      have haccepted := accepts_iff.2 ⟨hother, htaken⟩
      have hsame := honly _ _ haccepted
      -- An operation is exposed by imports of its own kind alone.
      have hkind : candidate.1.kind = imp.kind := by
        rw [← kind_of_mem_importedOperations hindexed haccepted.exposed, hsame,
          kind_of_mem_importedOperations hindexed h.exposed]
      exact Prod.ext
        (hsole _ haccepted.declared (haccepted.name.trans h.name.symm) hkind) hsame
    rw [hnamed.bindTokens_eq,
      Model.selectOverload_eq_ok hrepeated hnodup hcandidate htakes hunique]
  case doubled =>
    intro imp operation h other hother hsame hkind hne
    have haccepted := accepts_of_sameKind hindexed hclashes h hother hsame hkind
    exact hnamed.bindTokens_ambiguous hrepeated h haccepted fun heq => hne (Prod.mk.inj heq).1.symm
  case several =>
    intro imp operation other otherOperation h hother hne
    exact hnamed.bindTokens_ambiguous hrepeated h hother fun heq => hne (Prod.mk.inj heq).2.symm

/-- The time of a zone. -/
def zoned : Operation where
  id := 1
  namespaceName := "N"
  kind := .function
  decl :=
    { name := "Now", parameters := [{ name := "zone", typeName := "Edm.Int32" }]
      returnType := some { typeName := "Edm.Int32" } }

/-- Imports of the time, one of them under a name of its own. -/
def clocksContainer : Container where
  id := 2
  namespaceName := "N"
  decl :=
    { name := "Default"
      functionImports := [
        { name := "Time", function := "N.Now" },
        { name := "Now", function := "N.Now" }, { name := "Now", function := "N.Now" }] }

/-- The time here, and that of a zone. -/
def clocks : Declared.Description where
  schemas := [{
    namespaceName := "N"
    functions := [{ name := "Now", returnType := some { typeName := "Edm.Int32" } }, zoned.decl]
    containers := [clocksContainer.decl] }]

def clocksBinder : Binder :=
  ⟨.ofDescription clocks, some clocksContainer, {}⟩

/-- The import at a position. -/
def clockImport (position : Nat) (name : String) : OperationImport :=
  ⟨2, position, .function, name, "N.Now", none, false, {}⟩

/-- A call that gives a zone. -/
def zonedCall (name : String) : Token :=
  .plain name [⟨some "zone", "1"⟩]

theorem containerErrors_clocks :
    (Model.ofDescription clocks).containerErrors clocksContainer = [] := by
  decide +kernel

/-- No other operation takes a zone. -/
theorem eq_zoned_of_accepts {name : String} (hname : name ∈ ["Time", "Now"]) (imp : OperationImport)
    (operation : Operation)
    (h : Accepts clocksBinder clocksContainer (zonedCall name) imp operation) :
    operation = zoned := by
  have honly : ∀ name ∈ ["Time", "Now"],
      ∀ candidate ∈ clocksBinder.candidatesFor clocksContainer (zonedCall name),
        candidate.2.takes (Argument.ofValues (zonedCall name).values) = true →
          candidate.2 = zoned := by
    decide +kernel
  obtain ⟨hcandidate, htakes⟩ := accepts_iff.1 h
  exact honly name hname _ hcandidate htakes

/-- The time of a zone, by the name of one import and by that of two. -/
theorem bindTokens_import_clocks :
    clocksBinder.bindTokens none [zonedCall "Time"] =
        .ok [⟨clocksBinder.importSegment (zonedCall "Time") (clockImport 0 "Time") zoned, none⟩] ∧
      ∃ signatures, clocksBinder.bindTokens none [zonedCall "Now"] =
        .error (.token 0 "Now" (.ambiguous signatures)) := by
  have htime := bindTokens_import clocks clocksContainer {} (zonedCall "Time")
    containerErrors_clocks rfl (by decide) (by decide)
  have hnow := bindTokens_import clocks clocksContainer {} (zonedCall "Now")
    containerErrors_clocks rfl (by decide) (by decide)
  constructor
  · exact htime.picked (clockImport 0 "Time") zoned ⟨by decide, rfl, by decide +kernel, by decide⟩
      (eq_zoned_of_accepts (by simp)) (by decide)
  · exact hnow.doubled (clockImport 1 "Now") zoned ⟨by decide, rfl, by decide +kernel, by decide⟩
      (clockImport 2 "Now") (by decide) rfl rfl (by decide)

/-- Where two imports expose the only operation that takes the arguments, the call picks none. -/
theorem not_bindTokens_import :
    ¬ ∀ (description : Declared.Description) (container : Container) (settings : Settings)
      (token : Token), (Model.ofDescription description).containerErrors container = [] →
      settings.ignoreCase = false →
      token.identifier ∈ container.imports.map OperationImport.name →
      (token.values.filterMap NamedValue.name).Nodup →
      ∀ imp operation,
        Accepts ⟨.ofDescription description, some container, settings⟩ container token imp
          operation →
        (∀ other otherOperation,
          Accepts ⟨.ofDescription description, some container, settings⟩ container token other
            otherOperation → otherOperation = operation) →
        ∃ step, (Binder.mk (.ofDescription description) (some container) settings).bindTokens none
          [token] = .ok [step] := by
  intro hall
  obtain ⟨step, hbind⟩ := hall clocks clocksContainer {} (zonedCall "Now") containerErrors_clocks
    rfl (by decide) (by decide) (clockImport 1 "Now") zoned
    ⟨by decide, rfl, by decide +kernel, by decide⟩ (eq_zoned_of_accepts (by simp))
  have hnone : (clocksBinder.bindTokens none [zonedCall "Now"]).toOption = none := by
    decide +kernel
  rw [show clocksBinder.bindTokens none [zonedCall "Now"] = .ok [step] from hbind] at hnone
  contradiction

end Binder
end ResourcePaths
