import Mathlib.Data.List.Flatten
import ResourcePaths.Proofs.Binding.OwnNames
import ResourcePaths.Proofs.Binding.Rendering
import ResourcePaths.Proofs.Binding.Typing

/-!
# Bound paths bind again

The text of a bound path names what the path leads to by declared names only: short names for
namespaces, differences in case and calls without a namespace are gone.  It binds again, and to the
same path: the step lemma says it of one token, and the tokens of a path are gone through by
induction, with the types on the way staying types of the model.
-/

namespace ResourcePaths
namespace Binder

/-- What holds of a segment that is bound under its own name: the name is one of a plain token, the
arguments are those of the token, and every token of that name, with these arguments in a call, is
bound to the segment with that name. -/
structure BindsAgain (token : Token) (segment : Segment) (bound : Token → Segment → Prop) :
    Prop where
  name : Token.IsPlainName segment.ownName
  values : segment.isCall = true → segment.ownValues = token.values
  again : ∀ other : Token, other.identifier = segment.ownName →
    (segment.isCall = true → other.values = token.values) → bound other segment.renamed

variable {binder : Binder} {place : Place} {token : Token} {segment : Segment}

/-! ### One segment -/

/-- A call is bound again if a token of its own name with its arguments makes the same call. -/
theorem bindsAgain_call {name : String} {kind : SegmentKind} {operation : Operation}
    {source : Option NavigationSource} {bound : Token → Segment → Prop}
    (hcall : (binder.callSegment token.identifier kind operation source).isCall = true)
    (hvalues : (binder.callSegment token.identifier kind operation source).ownValues = token.values)
    (hown : (binder.callSegment token.identifier kind operation source).ownName = name)
    (hname : Token.IsPlainName name)
    (hagain : ∀ other : Token, other.identifier = name → other.values = token.values →
      bound other (binder.callSegment name kind operation source)) :
    BindsAgain token (binder.callSegment token.identifier kind operation source) bound := by
  refine ⟨?_, fun _ => hvalues, fun other hother hother' => ?_⟩
  · rw [hown]
    exact hname
  · rw [renamed_callSegment, hown]
    exact hagain other (hother.trans hown) (hother' hcall)

namespace IsPlain

/-- Every segment behind a place can be bound there under its own name. -/
theorem bindsOn_again (h : binder.IsPlain) {current : ModelType}
    (hcurrent : current.Within binder.model)
    (hname : Token.IsPlainName token.identifier)
    (hsegment : BindsOn binder place current token segment) :
    BindsAgain token segment (BindsOn binder place current) := by
  cases hsegment with
  | property property hfound =>
      obtain ⟨hproperty, hown⟩ := h.property_own hcurrent hfound
      refine ⟨?_, fun hcalled => ?_, fun other hother _ => ?_⟩
      · rw [ownName_propertySegment]
        exact Token.isPlainName_of_isName hproperty
      · rw [isCall_propertySegment] at hcalled
        contradiction
      · rw [ownName_propertySegment] at hother
        rw [renamed_propertySegment, ← hother]
        rw [← hother] at hown
        exact .property property hown
  | cast target hproperty htarget hassignable =>
      rw [castTargets] at htarget
      split at htarget
      · rename_i hdotted
        obtain ⟨hplain, hmentions, hown⟩ :=
          h.named.typesNamed_fullName h.apart h.indexed htarget
        refine ⟨hplain hname, fun hcalled => ?_, fun other hother _ => ?_⟩
        · contradiction
        · change other.identifier = target.fullName at hother
          have hnone := h.propertyNamed?_eq_none hcurrent (hmentions hdotted)
          have hagain : binder.castTargets target.fullName = [target] := by
            rw [castTargets, if_pos (hmentions hdotted)]
            exact hown
          rw [← hother] at hnone hagain
          show BindsOn binder place current other
            ⟨target.fullName, .cast target, some target, place.cardinality, place.source⟩
          rw [← hother]
          exact .cast target hnone hagain hassignable
      · contradiction
  | call operation hproperty htarget hpicked =>
      have hcandidate := (Model.mem_of_selectOverload hpicked).1
      obtain ⟨helement, hmem, hsublist⟩ := h.boundCandidates_own hcandidate
      have hdotted := h.named.operation_mentions_dot helement
      have hnone := h.propertyNamed?_eq_none hcurrent hdotted
      have hcasts :=
        h.castTargets_operation helement (isBoundTo_of_mem_boundCandidates hcandidate)
      have hagain := Model.selectOverload_of_sublist hsublist hmem hpicked
      refine bindsAgain_call (isCall_operation ..) (ownValues_operation ..) (ownName_operation ..)
        (h.named.isPlainName_fullName helement) fun other hother hvalues => ?_
      rw [← hother, ← hvalues]
      rw [← hother, ← hvalues] at hagain
      rw [← hother] at hnone hcasts
      exact .call operation hnone hcasts hagain
  | undeclared hproperty htarget hcandidates hopen =>
      refine ⟨hname, fun hcalled => ?_, fun other hother _ => ?_⟩
      · contradiction
      · change other.identifier = token.identifier at hother
        show BindsOn binder place current other
          ⟨token.identifier, .openProperty token.identifier, some .untyped, .single, none⟩
        rw [← hother] at hproperty htarget hcandidates ⊢
        exact .undeclared hproperty htarget hcandidates hopen

/-- Every segment at the front can be bound there under its own name. -/
theorem bindsRoot_again (h : binder.IsPlain) {container : Container}
    (hcontainer : binder.container = some container)
    (hsegment : BindsRoot binder container token segment) :
    BindsAgain token segment (BindsRoot binder container) := by
  cases hsegment with
  | source source hfound =>
      have hown := Container.findSource?_own hfound
      refine ⟨?_, fun hcalled => ?_, fun other hother _ => ?_⟩
      · exact Token.isPlainName_of_isName
          (h.source_isName hcontainer (Container.mem_of_findSource? hfound).1)
      · contradiction
      · change other.identifier = source.name at hother
        show BindsRoot binder container other (binder.sourceSegment source.name source)
        rw [← hother] at hown ⊢
        exact .source source hown
  | imported imp operation hsource hpicked =>
      obtain ⟨found, himport, hmem⟩ := List.mem_flatMap.1 (Model.mem_of_selectOverload hpicked).1
      obtain ⟨exposed, hexposed, heq⟩ := List.mem_map.1 hmem
      obtain ⟨rfl, rfl⟩ := Prod.mk.inj heq
      obtain ⟨hagain, hsublist, himports, hmatches⟩ := Container.findImports_own himport
      -- A source of the name of the import would have matched what was written, too.
      have hnone : container.findSource? found.name binder.settings.ignoreCase = none := by
        refine Container.findSource?_eq_none_iff.2 fun source hsource' hsame => ?_
        exact Container.findSource?_eq_none_iff.1 hsource source hsource' (hsame.trans hmatches)
      have hpickedAgain := Model.selectOverload_of_sublist (hsublist.flatMap _)
        (List.mem_flatMap.2 ⟨found, hagain, hmem⟩) hpicked
      have hname := Token.isPlainName_of_isName (h.import_isName hcontainer himports)
      refine bindsAgain_call (isCall_imported ..) (ownValues_imported ..) (ownName_imported ..)
        hname fun other hother hvalues => ?_
      rw [← hother, ← hvalues]
      rw [← hother, ← hvalues] at hpickedAgain
      rw [← hother] at hnone
      exact .imported found exposed hnone hpickedAgain
  | unbound operation hsource himport hdotted hpicked =>
      obtain ⟨hfound, hunbound⟩ := List.mem_filter.1 (Model.mem_of_selectOverload hpicked).1
      have helement := h.operation_mem hfound
      have hown := h.named.operation_mentions_dot helement
      obtain ⟨hnone, hnil⟩ :=
        h.findSource?_eq_none hcontainer hown binder.settings.ignoreCase
      have hsublist := (h.operations_own hfound).filter fun other => !other.decl.isBound
      have hpickedAgain := Model.selectOverload_of_sublist hsublist
        (List.mem_filter.2 ⟨h.mem_operations_own helement, hunbound⟩) hpicked
      refine bindsAgain_call (isCall_operation ..) (ownValues_operation ..) (ownName_operation ..)
        (h.named.isPlainName_fullName helement) fun other hother hvalues => ?_
      rw [← hother, ← hvalues]
      rw [← hother, ← hvalues] at hpickedAgain
      rw [← hother] at hnone hnil hown
      exact .unbound operation hnone hnil hown hpickedAgain

/-! ### Any token -/

theorem binds_again (h : binder.IsPlain) {start : Option Place}
    (hstart : ∀ place ∈ start, ∀ type ∈ place.type, type.Within binder.model)
    (hname : Token.IsPlainName token.identifier) (hsegment : Binds binder token start segment) :
    BindsAgain token segment fun other => Binds binder other start := by
  cases hsegment with
  | root hcontainer hsegment =>
      obtain ⟨hown, hvalues, hagain⟩ := h.bindsRoot_again hcontainer hsegment
      exact ⟨hown, hvalues, fun other hother hother' => .root hcontainer (hagain other hother hother')⟩
  | next htype hsegment =>
      obtain ⟨hown, hvalues, hagain⟩ := h.bindsOn_again (hstart _ rfl _ htype) hname hsegment
      exact ⟨hown, hvalues, fun other hother hother' => .next htype (hagain other hother hother')⟩

/-- The key of a segment is written by its own values, which can stand in a path as those that gave
the key could. -/
theorem keyAt_own (h : binder.IsPlain) (hwithin : ∀ type ∈ place.type, type.Within binder.model)
    {values : List NamedValue} {found : List KeyValue} (hne : values ≠ [])
    (hvalues : ∀ value ∈ values, value.IsWritable)
    (hkey : binder.model.keyAt binder.settings.ignoreCase place values = .ok found) :
    found ≠ [] ∧
      binder.model.keyAt binder.settings.ignoreCase place (KeyValue.asValues found) = .ok found ∧
      ∀ value ∈ KeyValue.asValues found, value.IsWritable := by
  obtain ⟨entity, htype, hkind, hcardinality, hentity⟩ := Model.keyAt_eq_ok_iff.1 hkey
  obtain ⟨hlength, hagain, hfrom⟩ := Model.entityKey_asValues hentity
  have helement : .structured entity ∈ binder.model.elements := hwithin _ htype
  refine ⟨?_, ?_, fun value hvalue => ?_⟩
  · rintro rfl
    exact hne (List.length_eq_zero_iff.1 hlength.symm)
  · exact Model.keyAt_eq_ok_iff.2 ⟨entity, htype, hkind, hcardinality, hagain⟩
  · obtain ⟨own, hown, htext, hname⟩ := KeyValue.mem_asValues hvalue
    obtain ⟨⟨property, hproperty, hpropertyName⟩, written, hwritten, hwrittenText⟩ := hfrom own hown
    have hdeclared := Model.mem_properties_of_mem_key hproperty
    have hisName := h.named.isName_of_mem_properties helement hdeclared
    refine ⟨fun name hmem => ?_, ?_⟩
    · rw [hname name hmem, hpropertyName]
      exact hisName
    · rw [htext, hwrittenText]
      exact (hvalues written hwritten).isValue

/-- A step whose segment is bound under its own name has its key behind that name, too, and its text
spells the two of them. -/
theorem step_again (h : binder.IsPlain) {step : Step} {bound : Token → Segment → Prop}
    (hwithin : ∀ type ∈ step.segment.type, type.Within binder.model)
    (hvalues : ∀ value ∈ token.values, value.IsWritable)
    (hsegment : BindsAgain token step.segment bound)
    (hkey : binder.bindKey step.segment token = .ok step.key) :
    bound step.ownToken step.renamed.segment ∧
      binder.bindKey step.renamed.segment step.ownToken = .ok step.renamed.key ∧
      Chain.Spells step.render step.ownToken := by
  obtain ⟨hname, harguments, hagain⟩ := hsegment
  obtain ⟨segment, key⟩ := step
  rcases bindKey_eq_ok_iff.1 hkey with ⟨hnokey, rfl⟩ | ⟨hne, hcall, values, hkeyAt, rfl⟩
  -- Without a key, only a call has values behind its name.
  · have hown : segment.ownValues = [] ∨ segment.isCall = true := by
      cases hcall : segment.isCall with
      | false => exact .inl (Segment.ownValues_of_isCall_eq_false hcall)
      | true => exact .inr rfl
    have hwritable : ∀ value ∈ segment.ownValues, value.IsWritable := by
      cases hcall : segment.isCall with
      | false => simp [Segment.ownValues_of_isCall_eq_false hcall]
      | true =>
          rw [harguments hcall]
          exact hvalues
    refine ⟨hagain _ rfl harguments, bindKey_eq_ok_iff.2 (.inl ⟨hown, rfl⟩), ?_⟩
    rw [Step.render_eq (by simp)]
    exact Chain.spells_render hname hwritable
  -- With a key the segment is no call, and the values behind its name write the same key.
  · obtain ⟨hfound, hkeyAgain, hwritable⟩ := h.keyAt_own hwithin hne hvalues hkeyAt
    have hasValues : KeyValue.asValues values ≠ [] := by
      rw [← List.length_pos_iff, KeyValue.length_asValues, List.length_pos_iff]
      exact hfound
    refine ⟨hagain _ rfl fun hcalled => ?_, bindKey_eq_ok_iff.2 (.inr ?_), ?_⟩
    · rw [hcall] at hcalled
      contradiction
    · exact ⟨hasValues, hcall, values, hkeyAgain, rfl⟩
    · rw [Step.render_eq]
      · exact Chain.spells_render hname hwritable
      · rintro _ ⟨rfl⟩
        exact ⟨hfound, hcall⟩

/-- Tokens that can be gone through give steps whose own tokens can be gone through, from texts of
these steps, and to the same steps but for their names. -/
theorem runs_again (h : binder.IsPlain) {start : Option Place} {tokens : List Token}
    {steps : List Step} (hstart : ∀ place ∈ start, ∀ type ∈ place.type, type.Within binder.model)
    (htokens : ∀ token ∈ tokens, Token.IsPlainName token.identifier ∧
      ∀ value ∈ token.values, value.IsWritable)
    (hruns : Runs binder start tokens steps) :
    Runs binder start (steps.map Step.ownToken) (steps.map Step.renamed) ∧
      List.Forall₂ Chain.Spells (steps.map Step.render) (steps.map Step.ownToken) := by
  -- The types on the way are types of the model: the properties of no other type are known to
  -- have plain names.
  induction hruns with
  | nil start => exact ⟨.nil start, .nil⟩
  | @cons start token step rest steps hsegment hkey _ ih =>
      obtain ⟨⟨hname, hvalues⟩, hrest⟩ := List.forall_mem_cons.1 htokens
      have hwithin := binds_within h.indexed hsegment
      obtain ⟨hagain, hkeyAgain, hspells⟩ :=
        h.step_again hwithin hvalues (h.binds_again hstart hname hsegment) hkey
      have hplace : ∀ place ∈ some step.place, ∀ type ∈ place.type, type.Within binder.model := by
        rintro _ ⟨rfl⟩
        rw [step.type_place]
        exact hwithin
      obtain ⟨hruns, hall⟩ := ih hplace hrest
      refine ⟨.cons hagain hkeyAgain ?_, .cons hspells hall⟩
      rw [step.place_renamed]
      exact hruns

end IsPlain

/-! ### Whole paths -/

/-- A path comes back from its own text: the texts of its steps bind, segment by segment, to what
its segments stand for and lead to, and the text of that path is the same. -/
def BindsBack (binder : Binder) (path : ResourcePath) : Prop :=
  ∃ again, binder.bindSegments (path.steps.map Step.render) = .ok again ∧
    List.Forall₂ Segment.Agrees path.segments again.segments ∧ again.render = path.render

theorem IsPlain.bindsBack (h : binder.IsPlain) {segments : List String} {path : ResourcePath}
    (hbind : binder.bindSegments segments = .ok path) : binder.BindsBack path := by
  obtain ⟨tokens, hspells, hchain⟩ := bindSegments_eq_ok_iff.1 hbind
  obtain ⟨hne, hfew, -, hruns⟩ := bindChain_eq_ok_iff.1 hchain
  obtain ⟨hagain, hspellsAgain⟩ :=
    h.runs_again (by simp) (Chain.isPlainName_of_forall₂_spells hspells) hruns
  have hlength := length_of_runs hruns
  let again : ResourcePath := ⟨path.steps.map Step.renamed⟩
  refine ⟨again, bindSegments_eq_ok_iff.2 ⟨path.steps.map Step.ownToken, hspellsAgain, ?_⟩,
    path.agrees_renamed, ?_⟩
  · refine bindChain_eq_ok_iff.2 ⟨?_, ?_, ?_, hagain⟩
    · rw [← List.length_pos_iff, List.length_map, hlength, List.length_pos_iff]
      exact hne
    · rw [List.length_map, hlength]
      exact hfew
    · intro token hmem
      obtain ⟨step, -, rfl⟩ := List.mem_map.1 hmem
      rfl
  · rw [ResourcePath.render, List.map_map]
    congr 1
    exact List.map_congr_left fun step _ => step.render_renamed

/-- Binding the text of a path that has been bound gives the path again, for every model whose
names are plain and leave those of the primitive types alone, every container of it and all
settings. -/
theorem bindsBack_of_bindSegments (description : Declared.Description)
    (container : Option Container) (settings : Settings)
    (hnamed : (Model.ofDescription description).PlainlyNamed)
    (hprimitives : (Model.ofDescription description).PrimitivesApart)
    (hcontainer : ∀ found ∈ container, found ∈ (Model.ofDescription description).containers)
    (segments : List String) (path : ResourcePath)
    (hbind : Binder.bindSegments ⟨.ofDescription description, container, settings⟩ segments =
      .ok path) :
    Binder.BindsBack ⟨.ofDescription description, container, settings⟩ path :=
  IsPlain.bindsBack ⟨Model.indexed_ofDescription description, hnamed, hprimitives, hcontainer⟩ hbind

/-- Orders and their customers, in a namespace with a short name, and a function on orders. -/
def orders : Declared.Description where
  schemas := [{
    namespaceName := "Shop.Sales", shortName := some "S"
    entityTypes := [
      { name := "Customer", key := some ["Id"]
        properties := [{ name := "Id", typeName := "Edm.Int32" }] },
      { name := "Order", key := some ["Id"]
        properties := [{ name := "Id", typeName := "Edm.Int32" }]
        navigationProperties := [{ name := "Customer", typeName := "S.Customer" }] }]
    functions := [{
      name := "Latest", isBound := true, returnType := some { typeName := "S.Order" }
      parameters := [
        { name := "orders", typeName := "Collection(S.Order)" },
        { name := "day", typeName := "Edm.Int32" }] }]
    containers := [{
      name := "Default", entitySets := [{ name := "Orders", entityType := "S.Order" }] }] }]

/-- The customer of the latest order of a day, with names in other letters and without
namespaces. -/
theorem bindsBack_of_latest :
    ∃ path, Binder.bindSegments
        ⟨.ofDescription orders, (Model.ofDescription orders).firstContainer?,
          { ignoreCase := true, unqualifiedCalls := true }⟩
        ["ORDERS", "latest(day=3)", "S.ORDER", "customer"] = .ok path ∧
      path.render = "Orders/Shop.Sales.Latest(day=3)/Shop.Sales.Order/Customer" ∧
      Binder.BindsBack
        ⟨.ofDescription orders, (Model.ofDescription orders).firstContainer?,
          { ignoreCase := true, unqualifiedCalls := true }⟩ path := by
  have hrender : ((Binder.bindSegments
      ⟨.ofDescription orders, (Model.ofDescription orders).firstContainer?,
        { ignoreCase := true, unqualifiedCalls := true }⟩
      ["ORDERS", "latest(day=3)", "S.ORDER", "customer"]).toOption.map ResourcePath.render) =
        some "Orders/Shop.Sales.Latest(day=3)/Shop.Sales.Order/Customer" := by decide +kernel
  obtain ⟨path, hpath, hrender⟩ := Option.map_eq_some_iff.1 hrender
  have hbind := Outcome.eq_ok_of_toOption hpath
  refine ⟨path, hbind, hrender, ?_⟩
  refine bindsBack_of_bindSegments orders _ _ ?_ ?_ ?_ _ path hbind
  · constructor <;> decide +kernel
  · constructor <;> decide +kernel
  · decide +kernel

/-- Things of a type that has the name of a primitive type, in a namespace with a short name. -/
def primitiveName : Declared.Description where
  schemas := [{
    namespaceName := "Edm", shortName := some "E"
    entityTypes := [
      { name := "Base", key := some ["Id"]
        properties := [{ name := "Id", typeName := "Edm.Int32" }] },
      { name := "String", baseType := some "E.Base" }]
    containers := [{
      name := "Default", entitySets := [{ name := "Things", entityType := "E.Base" }] }] }]

/-- Plain names are not enough: under its own name, that of a primitive type, a type is not found
in a path. -/
theorem not_bindsBack_of_primitiveName :
    ¬ ∀ (description : Declared.Description) (container : Option Container) (settings : Settings),
      (Model.ofDescription description).PlainlyNamed →
      (∀ found ∈ container, found ∈ (Model.ofDescription description).containers) →
      ∀ (segments : List String) (path : ResourcePath),
        Binder.bindSegments ⟨.ofDescription description, container, settings⟩ segments = .ok path →
          Binder.BindsBack ⟨.ofDescription description, container, settings⟩ path := by
  intro hall
  have hrender : (((Binder.ofModel (.ofDescription primitiveName) {}).bindSegments
      ["Things", "E.String"]).toOption.map fun path => path.steps.map Step.render) =
        some ["Things", "Edm.String"] := by decide +kernel
  obtain ⟨path, hpath, htexts⟩ := Option.map_eq_some_iff.1 hrender
  have hbind := Outcome.eq_ok_of_toOption hpath
  -- Read again, the name is that of the primitive type, which nothing can be cast to here.
  have hfails : ((Binder.ofModel (.ofDescription primitiveName) {}).bindSegments
      ["Things", "Edm.String"]).toOption = none := by decide +kernel
  have hnamed : (Model.ofDescription primitiveName).PlainlyNamed := by
    constructor <;> decide +kernel
  have hcontainer : ∀ found ∈ (Model.ofDescription primitiveName).firstContainer?,
      found ∈ (Model.ofDescription primitiveName).containers := by decide +kernel
  obtain ⟨again, hagain, -, -⟩ :=
    hall primitiveName _ {} hnamed hcontainer ["Things", "E.String"] path hbind
  change (Binder.ofModel (.ofDescription primitiveName) {}).bindSegments _ = _ at hagain
  rw [htexts] at hagain
  rw [hagain] at hfails
  contradiction

end Binder
end ResourcePaths
