import ResourcePaths.Proofs.Binding.FirstFault
import ResourcePaths.Proofs.Binding.Imports
import ResourcePaths.Proofs.Binding.Keys
import ResourcePaths.Proofs.Model.Reordering

/-!
# Calls in any order

An operation takes arguments or not, whatever their order, and it is bound exactly to a type or
not, whatever its number.  So a call picks the same operation wherever that is declared among the
operations of its schema, and in whichever order named arguments are given; or it fails for the same
reason, where only the candidates of an ambiguous call are listed in another order.  The binder goes
on from there to the same place, so that all of a path comes out alike.
-/

namespace ResourcePaths

open Outcome (Alike)

/-! ### Values in another order -/

/-- Values stand in another order, all of them with names and no two with the same. -/
inductive NamedValue.Reorders (values : List NamedValue) : List NamedValue → Prop
  | same : Reorders values values
  | named {others : List NamedValue} (hnamed : ∀ value ∈ values, value.name ≠ none)
      (hdistinct : (values.map (·.name)).Nodup) (hperm : values.Perm others) :
      Reorders values others

theorem NamedValue.Reorders.perm {values others : List NamedValue}
    (h : NamedValue.Reorders values others) : values.Perm others := by
  cases h with
  | same => exact .refl _
  | named _ _ hperm => exact hperm

namespace Token

/-- The values of a plain token stand in another order. -/
inductive Reorders : Token → Token → Prop
  | same (token : Token) : Reorders token token
  | plain (identifier : String) {values others : List NamedValue}
      (hvalues : NamedValue.Reorders values others) :
      Reorders (.plain identifier values) (.plain identifier others)

variable {token other : Token}

theorem Reorders.identifier_eq (h : token.Reorders other) :
    other.identifier = token.identifier := by
  cases h <;> rfl

theorem Reorders.isSystem_eq (h : token.Reorders other) : other.isSystem = token.isSystem := by
  cases h <;> rfl

theorem Reorders.values (h : token.Reorders other) :
    NamedValue.Reorders token.values other.values := by
  cases h with
  | same => exact .same
  | plain identifier hvalues => exact hvalues

end Token

namespace Argument

theorem ofValues_perm {values others : List NamedValue} (h : NamedValue.Reorders values others) :
    (ofValues values).Perm (ofValues others) :=
  h.perm.map _

theorem names?_eq_some_iff {arguments : List Argument} {names : List String} :
    names? arguments = some names ↔ arguments.map Argument.name = names.map some := by
  refine ⟨Binder.map_name_of_names?, fun h => ?_⟩
  calc
    names? arguments = (arguments.map Argument.name).mapM id := by
      rw [List.mapM_map]
      rfl
    _ = (names.map some).mapM id := by rw [h]
    _ = some names := by
      rw [List.mapM_map]
      exact (List.mapM_pure).trans (congrArg some (List.map_id _))

theorem names?_eq_none_iff {arguments : List Argument} :
    names? arguments = none ↔ none ∈ arguments.map Argument.name := by
  rw [Option.eq_none_iff_forall_ne_some]
  simp only [ne_eq, names?_eq_some_iff]
  constructor
  · intro hall
    by_contra hnone
    have hnamed : ∀ name ∈ arguments.map Argument.name, name.isSome = true := by
      intro name hmem
      exact Option.isSome_iff_ne_none.2 fun hname => hnone (hname ▸ hmem)
    apply hall (arguments.filterMap Argument.name)
    rw [List.map_filterMap_some_eq_filter_map_isSome, List.filter_eq_self.2 hnamed]
  · rintro hnone names hnames
    rw [hnames] at hnone
    simp at hnone

/-- Values that all have names of their own repeat none in any order. -/
theorem repeated?_of_reorders {values others : List NamedValue}
    (h : NamedValue.Reorders values others) :
    repeated? (ofValues others) = repeated? (ofValues values) := by
  cases h with
  | same => rfl
  | named _ hdistinct hperm =>
      have hnone {values : List NamedValue} (hdistinct : (values.map (·.name)).Nodup) :
          repeated? (ofValues values) = none := by
        rw [repeated?_eq_none_iff, filterMap_name_ofValues]
        have honly (first second : Option String) (name : String) (hfirst : name ∈ id first)
            (hsecond : name ∈ id second) : first = second :=
          (Option.mem_def.1 hfirst).trans (Option.mem_def.1 hsecond).symm
        have hnodup := hdistinct.filterMap honly
        rwa [List.filterMap_map] at hnodup
      rw [hnone hdistinct, hnone ((hperm.map _).nodup_iff.1 hdistinct)]

end Argument

namespace Operation

theorem takes_iff {operation : Operation} {arguments : List Argument} :
    operation.takes arguments = true ↔ operation.kind = .action ∨
      operation.callParameters.length = arguments.length ∧
        (none ∉ arguments.map Argument.name → ∀ parameter ∈ operation.callParameters,
          some parameter.decl.name ∈ arguments.map Argument.name) := by
  rw [takes, Bool.or_eq_true, Bool.and_eq_true, decide_eq_true_eq, decide_eq_true_eq]
  refine or_congr_right (and_congr_right fun _ => ?_)
  cases hnames : Argument.names? arguments with
  | none => simp only [Argument.names?_eq_none_iff.1 hnames, not_true_eq_false, false_implies]
  | some names =>
      rw [Argument.names?_eq_some_iff.1 hnames]
      simp

/-- Whether an operation takes arguments does not depend on their order. -/
theorem takes_of_perm {arguments others : List Argument} (h : arguments.Perm others)
    (operation : Operation) : operation.takes others = operation.takes arguments := by
  have hnames (name : Option String) :
      name ∈ others.map Argument.name ↔ name ∈ arguments.map Argument.name :=
    (h.map _).mem_iff.symm
  rw [Bool.eq_iff_iff, takes_iff, takes_iff, h.length_eq]
  simp only [hnames]

theorem takes_unnumbered (operation : Operation) (arguments : List Argument) :
    operation.unnumbered.takes arguments = operation.takes arguments := by
  rw [Bool.eq_iff_iff, takes_iff, takes_iff, callParameters_unnumbered, List.length_map,
    List.forall_mem_map]
  exact Iff.rfl

end Operation

/-! ### Faults -/

/-- Faults are the same, but for the order of what a token may stand for, and for what is wrong with
a key. -/
inductive TokenFault.Alike : TokenFault → TokenFault → Prop
  | same (fault : TokenFault) : Alike fault fault
  | ambiguous {candidates others : List String} (h : candidates.Perm others) :
      Alike (.ambiguous candidates) (.ambiguous others)
  | key (fault other : KeyFault) : Alike (.key fault) (.key other)

/-- Faults of the same token are alike, and others are the same. -/
inductive BindingError.Alike : BindingError → BindingError → Prop
  | same (error : BindingError) : Alike error error
  | token (index : Nat) (identifier : String) {fault other : TokenFault} (h : fault.Alike other) :
      Alike (.token index identifier fault) (.token index identifier other)

/-! ### Overloads -/

namespace Model

variable {model other : Model}

theorem isBoundExactlyTo_unnumbered (model : Model) (type : ModelType) (operation : Operation) :
    model.isBoundExactlyTo type operation.unnumbered = model.isBoundExactlyTo type operation := by
  rw [isBoundExactlyTo, isBoundExactlyTo, operation.bindingParameter?_unnumbered, Option.any_map]
  rfl

theorem signature_unnumbered (model : Model) (operation : Operation) :
    model.signature operation.unnumbered = model.signature operation := by
  rw [signature, signature, operation.parameters_unnumbered, List.map_map]
  rfl

namespace Reorders

variable (h : model.Reorders other) {α : Type} (operationOf : α → Operation) {view : α → α}
  {candidates others : List α}

include h

theorem isBoundExactlyTo_eq (type : ModelType) (operation : Operation) :
    other.isBoundExactlyTo type operation = model.isBoundExactlyTo type operation := by
  simp only [isBoundExactlyTo, h.parameterType_eq]

theorem signature_eq (operation : Operation) :
    other.signature operation = model.signature operation := by
  simp only [signature, h.parameterType_eq]

/-- The candidates that count are the same, if there are the same at all. -/
theorem preferExact_perm (hview : ∀ item, operationOf (view item) = (operationOf item).unnumbered)
    (bindingType : Option ModelType) (hperm : (candidates.map view).Perm (others.map view)) :
    ((model.preferExact operationOf bindingType candidates).map view).Perm
      ((other.preferExact operationOf bindingType others).map view) := by
  cases bindingType with
  | none => exact hperm
  | some type =>
      simp only [preferExact, h.isBoundExactlyTo_eq]
      have hexact := filter_perm hperm
        (fun item => model.isBoundExactlyTo type (operationOf item))
        fun item => by rw [hview, isBoundExactlyTo_unnumbered]
      have hlength := hexact.length_eq
      rw [List.length_map, List.length_map] at hlength
      simp only [List.isEmpty_iff_length_eq_zero, hlength]
      split
      · exact hperm
      · exact hexact

/-- A call picks the same candidate, up to the numbers of operations. -/
theorem selectOverload_alike
    (hview : ∀ item, operationOf (view item) = (operationOf item).unnumbered)
    (bindingType : Option ModelType) {values written : List NamedValue}
    (hvalues : NamedValue.Reorders values written)
    (hperm : (candidates.map view).Perm (others.map view)) :
    Alike TokenFault.Alike (fun item found => view item = view found)
      (model.selectOverload operationOf bindingType (Argument.ofValues values) candidates)
      (other.selectOverload operationOf bindingType (Argument.ofValues written) others) := by
  have harguments := Argument.ofValues_perm hvalues
  simp only [selectOverload, Argument.repeated?_of_reorders hvalues,
    Operation.takes_of_perm harguments, ← harguments.length_eq]
  cases Argument.repeated? (Argument.ofValues values) with
  | some name => exact .error (.same _)
  | none =>
      have hpicked := h.preferExact_perm operationOf hview bindingType <| filter_perm hperm
        (fun item => (operationOf item).takes (Argument.ofValues values))
        fun item => by rw [hview, Operation.takes_unnumbered]
      generalize model.preferExact operationOf bindingType _ = picked at hpicked ⊢
      generalize other.preferExact operationOf bindingType _ = found at hpicked ⊢
      -- No candidate is left, a single one, or several.
      obtain _ | ⟨item, _ | ⟨second, more⟩⟩ := picked
      · rw [List.map_eq_nil_iff.1 hpicked.nil_eq.symm]
        exact .error (.same _)
      · obtain ⟨only, rfl, hsame⟩ := List.map_eq_singleton_iff.1 hpicked.singleton_eq.symm
        exact .ok hsame.symm
      · have hsignatures := hpicked.map fun item => model.signature (operationOf item)
        rw [List.map_map, List.map_map] at hsignatures
        have hlength : (item :: second :: more).length = found.length := by
          simpa only [List.length_map] using hpicked.length_eq
        obtain ⟨found, next, rest, rfl⟩ := exists_several hlength
        refine .error (.ambiguous ?_)
        simpa only [Function.comp_def, hview, signature_unnumbered, h.signature_eq] using
          hsignatures

end Reorders

/-! ### Keys -/

section Keys

variable {ignoreCase : Bool} {values others : List NamedValue} {found : List KeyValue}

theorem keyValues_of_perm {entity : StructuredType} {key : List StructuralProperty}
    (hperm : values.Perm others)
    (h : model.keyValues ignoreCase entity key [] values = .ok found) :
    ∃ read, model.keyValues ignoreCase entity key [] others = .ok read ∧ found.Perm read := by
  obtain ⟨hgives, hnodup, -⟩ := keyValues_eq_ok_iff_givesKey.1 h
  obtain ⟨read, hread, hsame⟩ := List.perm_comp_forall₂ hperm.symm hgives
  refine ⟨read, keyValues_eq_ok_iff_givesKey.2 ⟨hread, ?_, ?_⟩, hsame.symm⟩
  · exact (hsame.map _).nodup_iff.2 hnodup
  · exact fun own _ => List.not_mem_nil

/-- Values write the same key in any order. -/
theorem keyAt_of_perm {place : Place} (hperm : values.Perm others)
    (h : model.keyAt ignoreCase place values = .ok found) :
    ∃ read, model.keyAt ignoreCase place others = .ok read ∧ found.Perm read := by
  obtain ⟨entity, htype, hkind, hcardinality, h⟩ := keyAt_eq_ok_iff.1 h
  have hentity : ∃ read, model.entityKey ignoreCase entity others = .ok read ∧ found.Perm read := by
    simp only [entityKey, hperm.length_eq, hperm.any_eq] at h ⊢
    split at h
    · contradiction
    · rename_i hcount
      rw [if_neg hcount]
      split at h
      · contradiction
      · rename_i hnamed
        rw [if_neg hnamed]
        exact keyValues_of_perm hperm h
  obtain ⟨read, hread, hsame⟩ := hentity
  exact ⟨read, keyAt_eq_ok_iff.2 ⟨entity, htype, hkind, hcardinality, hread⟩, hsame⟩

end Keys

namespace Reorders

variable (h : model.Reorders other)

include h

theorem typesNamed_perm (ignoreCase : Bool) (name : String) :
    (model.typesNamed ignoreCase name).Perm (other.typesNamed ignoreCase name) := by
  unfold typesNamed
  split
  · exact .refl _
  · exact h.types_perm name ignoreCase

theorem onlyTypeNamed?_eq (ignoreCase : Bool) (name : String) :
    other.onlyTypeNamed? ignoreCase name = model.onlyTypeNamed? ignoreCase name := by
  have htypes := h.typesNamed_perm ignoreCase name
  unfold onlyTypeNamed?
  generalize model.typesNamed ignoreCase name = types at htypes
  generalize other.typesNamed ignoreCase name = others at htypes
  obtain _ | ⟨type, _ | ⟨second, more⟩⟩ := types
  · rw [htypes.nil_eq]
  · rw [htypes.singleton_eq]
  · obtain ⟨found, next, rest, rfl⟩ := exists_several htypes.length_eq
    rfl

theorem keyValues_eq (ignoreCase : Bool) (entity : StructuredType)
    (key : List StructuralProperty) (seen : List String) (values : List NamedValue) :
    other.keyValues ignoreCase entity key seen values =
      model.keyValues ignoreCase entity key seen values := by
  have hfits (type : ModelType) (literal : Literal) :
      other.fits ignoreCase type literal = model.fits ignoreCase type literal := by
    simp only [fits, h.onlyTypeNamed?_eq]
  have hvalue (seen : List String) (property : StructuralProperty) (value : NamedValue) :
      other.keyValue ignoreCase seen property value =
        model.keyValue ignoreCase seen property value := by
    simp only [keyValue, h.typeOf_eq, hfits]
  induction values generalizing seen with
  | nil => rfl
  | cons value rest ih => simp only [keyValues, hvalue, ih]

theorem keyAt_eq (ignoreCase : Bool) (place : Place) (values : List NamedValue) :
    other.keyAt ignoreCase place values = model.keyAt ignoreCase place values := by
  simp only [keyAt, entityKey, h.key_eq, h.keyValues_eq]

theorem keyAt_alike (ignoreCase : Bool) (place : Place) {values written : List NamedValue}
    (hperm : values.Perm written) :
    Alike (fun _ _ => True) List.Perm (model.keyAt ignoreCase place values)
      (other.keyAt ignoreCase place written) := by
  rw [h.keyAt_eq]
  cases hkey : model.keyAt ignoreCase place values with
  | ok found =>
      obtain ⟨read, hread, hsame⟩ := keyAt_of_perm hperm hkey
      rw [hread]
      exact .ok hsame
  | error fault =>
      cases hwritten : model.keyAt ignoreCase place written with
      | error => exact .error trivial
      | ok read =>
          -- In the order of the first values these would write a key, too.
          obtain ⟨found, hfound, -⟩ := keyAt_of_perm hperm.symm hwritten
          rw [hkey] at hfound
          contradiction

end Reorders

end Model

/-! ### Steps -/

/-- Segments stand for the same: for operations that are declared alike, called with the same
arguments in any order, or for the very same. -/
inductive SegmentKind.Alike : SegmentKind → SegmentKind → Prop
  | same (kind : SegmentKind) : Alike kind kind
  | operation {operation other : Operation} {arguments others : List Argument}
      (hdeclared : operation.unnumbered = other.unnumbered) (harguments : arguments.Perm others) :
      Alike (.operation operation arguments) (.operation other others)
  | imported (imp : OperationImport) {operation other : Operation}
      {arguments others : List Argument} (hdeclared : operation.unnumbered = other.unnumbered)
      (harguments : arguments.Perm others) :
      Alike (.imported imp operation arguments) (.imported imp other others)

/-- Segments stand for the same and lead to the same place. -/
structure Segment.Alike (segment other : Segment) : Prop where
  identifier : other.identifier = segment.identifier
  kind : segment.kind.Alike other.kind
  place : other.place = segment.place

/-- Steps have segments that are alike, and the same key in any order. -/
structure Step.Alike (step other : Step) : Prop where
  segment : step.segment.Alike other.segment
  key : Option.Rel List.Perm step.key other.key

/-- Paths have steps that are alike. -/
structure ResourcePath.Alike (path other : ResourcePath) : Prop where
  steps : List.Forall₂ Step.Alike path.steps other.steps

theorem Segment.Alike.refl (segment : Segment) : segment.Alike segment :=
  ⟨rfl, .same _, rfl⟩

theorem Segment.Alike.isCall_eq {segment other : Segment} (h : segment.Alike other) :
    other.isCall = segment.isCall := by
  obtain ⟨-, hkind, -⟩ := h
  unfold isCall
  generalize segment.kind = kind at hkind
  generalize other.kind = otherKind at hkind
  cases hkind <;> rfl

theorem Step.Alike.place_eq {step other : Step} (h : step.Alike other) :
    other.place = step.place := by
  obtain ⟨segment, key⟩ := step
  obtain ⟨otherSegment, otherKey⟩ := other
  obtain ⟨⟨-, -, hplace⟩, hkey⟩ := h
  cases hkey with
  | none => exact hplace
  | some hperm =>
      obtain ⟨htype, -, hsource⟩ := Place.mk.inj hplace
      exact congrArg₂ (Place.mk · .single ·) htype hsource

namespace Binder

theorem faultAt_alike (index : Nat) {token written : Token} (htoken : token.Reorders written)
    {α β : Type} {results : α → β → Prop} {first : Except TokenFault α}
    {second : Except TokenFault β} (hfirst : Alike TokenFault.Alike results first second) :
    Alike BindingError.Alike results (faultAt index token first)
      (faultAt index written second) := by
  cases hfirst with
  | ok hresult => exact .ok hresult
  | error hfault =>
      rw [faultAt, faultAt, htoken.identifier_eq]
      exact .error (.token index token.identifier hfault)

theorem firstSystem?_of_reorders {tokens others : List Token}
    (htokens : List.Forall₂ Token.Reorders tokens others) (index : Nat) :
    firstSystem? index others = firstSystem? index tokens := by
  induction htokens generalizing index with
  | nil => rfl
  | cons htoken _ ih => simp only [firstSystem?, htoken.isSystem_eq, htoken.identifier_eq, ih]

/-- A binder has the model of another one with operations in another order, and otherwise the same
container and settings. -/
structure Reorders (binder other : Binder) : Prop where
  model : binder.model.Reorders other.model
  container : other.container = binder.container
  settings : other.settings = binder.settings

namespace Reorders

variable {binder other : Binder} (h : binder.Reorders other)

include h

theorem resultSource?_eq (operation : Operation) (source : NavigationSource) :
    other.resultSource? operation source = binder.resultSource? operation source := by
  have hfollow (source : NavigationSource) (names : List String) :
      other.followNames source names = binder.followNames source names := by
    induction names generalizing source with
    | nil => rfl
    | cons name rest ih =>
        simp only [followNames, h.model.sourceEntity?_eq, h.model.findProperty?_eq,
          h.model.navigate_eq, ih]
  simp only [resultSource?, h.model.resultType?_eq, hfollow]

theorem callSegment_alike (identifier : String) {kind found : SegmentKind}
    (hkind : kind.Alike found) {operation picked : Operation}
    (hdeclared : operation.unnumbered = picked.unnumbered) (source : Option NavigationSource) :
    (binder.callSegment identifier kind operation source).Alike
      (other.callSegment identifier found picked source) := by
  have htype : other.model.resultType? picked = binder.model.resultType? operation :=
    calc
      other.model.resultType? picked = binder.model.resultType? picked := h.model.resultType?_eq _
      _ = binder.model.resultType? picked.unnumbered := rfl
      _ = binder.model.resultType? operation.unnumbered := by rw [hdeclared]
      _ = binder.model.resultType? operation := rfl
  simp only [callSegment, htype]
  cases binder.model.resultType? operation with
  | none => exact ⟨rfl, hkind, rfl⟩
  | some type => exact ⟨rfl, hkind, rfl⟩

/-! ### Candidates -/

theorem importedCandidates_perm (imports : List OperationImport) :
    ((binder.importedCandidates imports).map (Prod.map id Operation.unnumbered)).Perm
      ((other.importedCandidates imports).map (Prod.map id Operation.unnumbered)) := by
  simp only [importedCandidates, List.map_flatMap, List.map_map]
  refine List.Perm.flatMap_left imports fun imp _ => ?_
  have hoperations := (h.model.importedOperations_perm imp).map fun operation => (imp, operation)
  rwa [List.map_map, List.map_map] at hoperations

theorem unboundNamed_perm (identifier : String) :
    ((binder.unboundNamed identifier).map Operation.unnumbered).Perm
      ((other.unboundNamed identifier).map Operation.unnumbered) := by
  rw [unboundNamed, unboundNamed, h.settings]
  exact filter_perm (h.model.operations_perm identifier _) _ fun _ => rfl

theorem castTargets_perm (identifier : String) :
    (binder.castTargets identifier).Perm (other.castTargets identifier) := by
  rw [castTargets, castTargets, h.settings]
  split
  · exact h.model.typesNamed_perm _ identifier
  · exact .refl _

theorem boundCandidates_perm (identifier : String) (type : ModelType) :
    ((binder.boundCandidates identifier type).map Operation.unnumbered).Perm
      ((other.boundCandidates identifier type).map Operation.unnumbered) := by
  simp only [boundCandidates, h.settings, funext (h.model.isBoundTo_eq type)]
  by_cases hdotted : Text.mentions identifier '.' = true
  · rw [if_pos hdotted, if_pos hdotted]
    exact filter_perm (h.model.operations_perm identifier _) _
      (binder.model.isBoundTo_unnumbered type)
  · rw [if_neg hdotted, if_neg hdotted]
    split
    · exact filter_perm (h.model.findBoundOperations_perm type) _ fun _ => rfl
    · exact .refl _

/-! ### Segments -/

theorem bindImport_alike (identifier : String) {values written : List NamedValue}
    (hvalues : NamedValue.Reorders values written) (imports : List OperationImport) :
    Alike TokenFault.Alike Segment.Alike
      (binder.bindImport identifier (Argument.ofValues values) imports)
      (other.bindImport identifier (Argument.ofValues written) imports) := by
  have hperm := h.importedCandidates_perm imports
  refine (h.model.selectOverload_alike Prod.snd (fun _ => rfl) none hvalues hperm).bind ?_
  rintro ⟨imp, operation⟩ ⟨_, found⟩ hsame
  obtain ⟨rfl, hdeclared⟩ := Prod.mk.inj hsame
  have hkind := SegmentKind.Alike.imported imp hdeclared (Argument.ofValues_perm hvalues)
  simp only [id_eq, h.model.importedSet?_eq]
  exact .ok (h.callSegment_alike identifier hkind hdeclared _)

theorem bindUnbound_alike (identifier : String) {values written : List NamedValue}
    (hvalues : NamedValue.Reorders values written) {operations others : List Operation}
    (hperm : (operations.map Operation.unnumbered).Perm (others.map Operation.unnumbered)) :
    Alike TokenFault.Alike Segment.Alike
      (binder.bindUnbound identifier (Argument.ofValues values) operations)
      (other.bindUnbound identifier (Argument.ofValues written) others) := by
  refine (h.model.selectOverload_alike id (fun _ => rfl) none hvalues hperm).bind ?_
  intro operation found hdeclared
  have hkind := SegmentKind.Alike.operation hdeclared (Argument.ofValues_perm hvalues)
  exact .ok (h.callSegment_alike identifier hkind hdeclared _)

theorem bindBound_alike (place : Place) (type : ModelType) {token written : Token}
    (htoken : token.Reorders written) {operations others : List Operation}
    (hperm : (operations.map Operation.unnumbered).Perm (others.map Operation.unnumbered)) :
    Alike TokenFault.Alike Segment.Alike (binder.bindBound place type token operations)
      (other.bindBound place type written others) := by
  refine (h.model.selectOverload_alike id (fun _ => rfl) (some type) htoken.values hperm).bind ?_
  intro operation found (hdeclared : operation.unnumbered = found.unnumbered)
  have hkind := SegmentKind.Alike.operation hdeclared (Argument.ofValues_perm htoken.values)
  have hsource : other.resultSource? found = binder.resultSource? operation :=
    calc
      other.resultSource? found = binder.resultSource? found := funext (h.resultSource?_eq found)
      _ = binder.resultSource? found.unnumbered := rfl
      _ = binder.resultSource? operation.unnumbered := by rw [hdeclared]
      _ = binder.resultSource? operation := rfl
  simp only [htoken.identifier_eq, hsource]
  exact .ok (h.callSegment_alike token.identifier hkind hdeclared _)

/-- The segment of a first token is the same, or a call of the same operation. -/
theorem bindRoot_alike (container : Container) {token written : Token}
    (htoken : token.Reorders written) :
    Alike TokenFault.Alike Segment.Alike (binder.bindRoot container token)
      (other.bindRoot container written) := by
  simp only [bindRoot, htoken.identifier_eq, h.settings, sourceSegment, h.model.sourceType_eq]
  split
  · exact .ok (.refl _)
  · split
    · exact h.bindImport_alike _ htoken.values _
    · by_cases hdotted : Text.mentions token.identifier '.' = true
      · rw [if_pos hdotted, if_pos hdotted]
        have hperm := h.unboundNamed_perm token.identifier
        generalize binder.unboundNamed token.identifier = operations at hperm ⊢
        generalize other.unboundNamed token.identifier = others at hperm ⊢
        obtain ⟨operation, rest, found, more, rfl, rfl⟩ | ⟨rfl, rfl⟩ := exists_cons_or_nil hperm
        · exact h.bindUnbound_alike _ htoken.values hperm
        · exact .error (.same _)
      · rw [if_neg hdotted, if_neg hdotted]
        exact .error (.same _)

/-- The segment of a token behind a place is the same, or a call of the same operation. -/
theorem bindOn_alike (place : Place) (current : ModelType) {token written : Token}
    (htoken : token.Reorders written) :
    Alike TokenFault.Alike Segment.Alike (binder.bindOn place current token)
      (other.bindOn place current written) := by
  have hproperty : other.propertyNamed? current = binder.propertyNamed? current := by
    funext identifier
    simp only [propertyNamed?, h.settings, h.model.findProperty?_eq]
  simp only [bindOn, htoken.identifier_eq, hproperty]
  split
  · simp only [propertySegment, h.model.typeOf_eq, h.model.navigate_eq]
    exact .ok (.refl _)
  · have htargets := h.castTargets_perm token.identifier
    generalize binder.castTargets token.identifier = targets at htargets ⊢
    generalize other.castTargets token.identifier = others at htargets ⊢
    -- The identifier names no type, a single one, or several.
    obtain _ | ⟨target, _ | ⟨second, more⟩⟩ := targets
    · rw [htargets.nil_eq.symm]
      have hperm := h.boundCandidates_perm token.identifier (place.cardinality.wrap current)
      generalize binder.boundCandidates token.identifier _ = operations at hperm ⊢
      generalize other.boundCandidates token.identifier _ = others at hperm ⊢
      obtain ⟨operation, rest, found, more, rfl, rfl⟩ | ⟨rfl, rfl⟩ := exists_cons_or_nil hperm
      · exact h.bindBound_alike place _ htoken hperm
      · simp only [bindOpen, h.model.isOpen_eq]
        split
        · exact .ok (.refl _)
        · exact .error (.same _)
    · rw [htargets.singleton_eq.symm]
      simp only [bindCast, h.model.isAssignable_eq]
      split
      · exact .ok (.refl _)
      · exact .error (.same _)
    · obtain ⟨found, next, rest, rfl⟩ := exists_several htargets.length_eq
      exact .error (.ambiguous (htargets.map _))

theorem bindNext_alike (place : Place) {token written : Token} (htoken : token.Reorders written) :
    Alike TokenFault.Alike Segment.Alike (binder.bindNext place token)
      (other.bindNext place written) := by
  unfold bindNext
  split
  · exact h.bindOn_alike place _ htoken
  · exact .error (.same _)

/-! ### Steps -/

theorem bindKey_alike {segment found : Segment} (hsegment : segment.Alike found)
    {token written : Token} (htoken : token.Reorders written) :
    Alike TokenFault.Alike (Option.Rel List.Perm) (binder.bindKey segment token)
      (other.bindKey found written) := by
  have hempty := htoken.values.perm.isEmpty_eq
  simp only [bindKey, ← hempty, hsegment.isCall_eq, hsegment.place, h.settings]
  split
  · exact .ok .none
  · have hkey := h.model.keyAt_alike binder.settings.ignoreCase segment.place htoken.values.perm
    generalize binder.model.keyAt _ _ token.values = key at hkey ⊢
    generalize other.model.keyAt _ _ written.values = found at hkey ⊢
    cases hkey with
    | ok hperm => exact .ok (.some hperm)
    | error => exact .error (.key _ _)

theorem finishStep_alike {segment found : Segment} (hsegment : segment.Alike found)
    {token written : Token} (htoken : token.Reorders written) :
    Alike TokenFault.Alike Step.Alike (binder.finishStep token segment)
      (other.finishStep written found) :=
  (h.bindKey_alike hsegment htoken).map fun _ _ hkey => ⟨hsegment, hkey⟩

/-- Steps behind a place go on alike. -/
theorem bindRest_alike (place : Place) (index : Nat) {tokens others : List Token}
    (htokens : List.Forall₂ Token.Reorders tokens others) :
    Alike BindingError.Alike (List.Forall₂ Step.Alike) (binder.bindRest place index tokens)
      (other.bindRest place index others) := by
  induction htokens generalizing place index with
  | nil => exact .ok .nil
  | cons htoken _ ih =>
      have hfirst := (h.bindNext_alike place htoken).bind fun _ _ hsegment =>
        h.finishStep_alike hsegment htoken
      refine (faultAt_alike index htoken hfirst).bind fun step found hstep => ?_
      rw [hstep.place_eq]
      exact (ih step.place (index + 1)).bind fun _ _ hothers => .ok (.cons hstep hothers)

theorem bindTokens_alike (start : Option Place) {tokens others : List Token}
    (htokens : List.Forall₂ Token.Reorders tokens others) :
    Alike BindingError.Alike (List.Forall₂ Step.Alike) (binder.bindTokens start tokens)
      (other.bindTokens start others) := by
  cases start with
  | some place => exact h.bindRest_alike place 0 htokens
  | none =>
      cases htokens with
      | nil => exact .ok .nil
      | cons htoken hrest =>
          simp only [bindTokens, h.container]
          split
          · exact .error (.same _)
          · rename_i container hcontainer
            have hfirst := (h.bindRoot_alike container htoken).bind fun _ _ hsegment =>
              h.finishStep_alike hsegment htoken
            refine (faultAt_alike 0 htoken hfirst).bind fun step found hstep => ?_
            rw [hstep.place_eq]
            exact (h.bindRest_alike step.place 1 hrest).bind fun _ _ hothers =>
              .ok (.cons hstep hothers)

/-! ### Chains -/

theorem bindChain_alike (start : Option Place) {tokens others : List Token}
    (htokens : List.Forall₂ Token.Reorders tokens others) :
    Alike BindingError.Alike ResourcePath.Alike (binder.bindChain start tokens)
      (other.bindChain start others) := by
  have hempty : others.isEmpty = tokens.isEmpty := by
    cases htokens <;> rfl
  simp only [bindChain, hempty, h.settings, ← htokens.length_eq, firstSystem?_of_reorders htokens]
  split
  · exact .error (.same _)
  · split
    · exact .error (.same _)
    · split
      · exact .error (.same _)
      · exact (h.bindTokens_alike start htokens).map fun _ _ hsteps => ⟨hsteps⟩

theorem bindAt_alike (start : Option NavigationSource) {chain written : Chain}
    (htokens : List.Forall₂ Token.Reorders chain.tokens written.tokens) :
    Alike BindingError.Alike ResourcePath.Alike (binder.bindAt start chain)
      (other.bindAt start written) := by
  have hplace : other.placeOf = binder.placeOf := by
    funext source
    simp only [placeOf, h.model.sourceType_eq]
  rw [bindAt_eq, bindAt_eq, hplace]
  exact h.bindChain_alike _ htokens

end Reorders

/-- The order in which operations are declared does not matter to a path, and neither does that of
arguments which all have names of their own: it binds to segments that stand for the same, where
the operations are declared alike, or it fails at the same token for the same reason. -/
theorem bindAt_in_any_order {description other : Declared.Description}
    (hdeclared : description.Reorders other) (container : Option Container) (settings : Settings)
    (start : Option NavigationSource) {chain written : Chain}
    (htokens : List.Forall₂ Token.Reorders chain.tokens written.tokens) :
    (Model.ofDescription other).firstContainer? =
        (Model.ofDescription description).firstContainer? ∧
      Alike BindingError.Alike ResourcePath.Alike
        (bindAt ⟨.ofDescription description, container, settings⟩ start chain)
        (bindAt ⟨.ofDescription other, container, settings⟩ start written) := by
  have hmodel := Model.reorders_ofDescription hdeclared
  have hbinder : Reorders ⟨.ofDescription description, container, settings⟩
      ⟨.ofDescription other, container, settings⟩ := ⟨hmodel, rfl, rfl⟩
  exact ⟨hmodel.firstContainer?_eq, hbinder.bindAt_alike start htokens⟩

/-- A function that ranks customers, or those of a type below, or many of them. -/
def ranking (typeName : String) : Declared.Operation where
  name := "Rank"
  isBound := true
  parameters := [
    { name := "it", typeName }, { name := "low", typeName := "Edm.Int32" },
    { name := "high", typeName := "Edm.Int32" }]
  returnType := some { typeName := "Edm.Int32" }

/-- Customers that functions of one name rank. -/
def rankedCustomers (functions : List Declared.Operation) : Declared.Description where
  schemas := [{
    namespaceName := "N"
    entityTypes := [
      { name := "Customer", key := some ["Id"]
        properties := [{ name := "Id", typeName := "Edm.Int32" }] },
      { name := "Vip", baseType := some "N.Customer" }]
    functions := functions
    containers := [{
      name := "Default", entitySets := [{ name := "Customers", entityType := "N.Customer" }] }] }]

/-- Whichever function stands first and whichever limit is given first, the customers of the type
below are ranked by the function for these. -/
theorem bindAt_ranks_in_any_order :
    let functions := [ranking "N.Customer", ranking "N.Vip", ranking "Collection(N.Customer)"]
    let others := [ranking "N.Vip", ranking "Collection(N.Customer)", ranking "N.Customer"]
    let container := (Model.ofDescription (rankedCustomers functions)).firstContainer?
    let ranked (values : List NamedValue) : Chain :=
      .plain "Customers" [⟨none, "1"⟩] (.plain "N.Vip" [] (.plain "N.Rank" values .empty))
    let chain := ranked [⟨some "low", "1"⟩, ⟨some "high", "9"⟩]
    let written := ranked [⟨some "high", "9"⟩, ⟨some "low", "1"⟩]
    (rankedCustomers functions).Reorders (rankedCustomers others) ∧
      List.Forall₂ Token.Reorders chain.tokens written.tokens ∧
      ∃ path found,
        bindAt ⟨.ofDescription (rankedCustomers functions), container, {}⟩ none chain = .ok path ∧
        bindAt ⟨.ofDescription (rankedCustomers others), container, {}⟩ none written = .ok found ∧
        path.Alike found := by
  intro functions others container ranked chain written
  have hfunctions : functions.Perm others := by decide
  have hdeclared : (rankedCustomers functions).Reorders (rankedCustomers others) :=
    ⟨.cons (.intro (.refl _) hfunctions) .nil⟩
  have hvalues : NamedValue.Reorders [⟨some "low", "1"⟩, ⟨some "high", "9"⟩]
      [⟨some "high", "9"⟩, ⟨some "low", "1"⟩] :=
    .named (by decide) (by decide) (by decide)
  have htokens : List.Forall₂ Token.Reorders chain.tokens written.tokens :=
    .cons (.same _) (.cons (.same _) (.cons (.plain "N.Rank" hvalues) .nil))
  obtain ⟨-, hbinds⟩ := bindAt_in_any_order hdeclared container {} none htokens
  have hpath : (bindAt ⟨.ofDescription (rankedCustomers functions), container, {}⟩ none
      chain).toOption.isSome = true := by decide +kernel
  obtain ⟨path, hpath⟩ := Option.isSome_iff_exists.1 hpath
  have hpath := Outcome.eq_ok_of_toOption hpath
  rw [hpath] at hbinds
  obtain ⟨found, hfound, halike⟩ := hbinds.exists_of_ok
  exact ⟨hdeclared, htokens, path, found, hpath, hfound, halike⟩

end Binder
end ResourcePaths
