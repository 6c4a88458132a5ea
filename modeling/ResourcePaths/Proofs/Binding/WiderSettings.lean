import ResourcePaths.Proofs.Binding.ExactNames

/-!
# Settings that allow more

A call without a namespace is tried only where a token names neither a property nor a type, and only
for an identifier without a dot.  Where such calls are not allowed, nothing but a property that is
not declared can stand at a token like that.  So a path without one of those stays what it is when
the calls are allowed, and when it could have been longer.
-/

namespace ResourcePaths

/-- Settings allow what others allow: they match names in the same way, allow calls without a
namespace if the others do, and allow paths to be as long at least. -/
structure Settings.Allows (wider settings : Settings) : Prop where
  names : wider.ignoreCase = settings.ignoreCase
  calls : settings.unqualifiedCalls = true → wider.unqualifiedCalls = true
  length : settings.maxSegments ≤ wider.maxSegments

namespace Binder

/-- The binder with other settings. -/
def withSettings (binder : Binder) (settings : Settings) : Binder :=
  { binder with settings }

variable {binder : Binder} {wider : Settings} {token : Token} {segment : Segment}

/-! ### Steps -/

/-- Calls that are considered at all are considered beside the same others, since a call with a
namespace is never one without. -/
theorem boundCandidates_of_allows (hallows : wider.Allows binder.settings) {identifier : String}
    {type : ModelType} (hne : binder.boundCandidates identifier type ≠ []) :
    (binder.withSettings wider).boundCandidates identifier type =
      binder.boundCandidates identifier type := by
  simp only [boundCandidates, withSettings, hallows.names] at hne ⊢
  split at hne
  · rename_i hdotted
    rw [if_pos hdotted, if_pos hdotted]
  · rename_i hdotted
    split at hne
    · rename_i hcalls
      rw [if_neg hdotted, if_neg hdotted, if_pos hcalls, if_pos (hallows.calls hcalls)]
    · contradiction

theorem bindsRoot_of_allows (hallows : wider.Allows binder.settings) {container : Container}
    (hsegment : BindsRoot binder container token segment) :
    BindsRoot (binder.withSettings wider) container token segment := by
  cases hsegment with
  | source source hfound =>
      rw [← hallows.names] at hfound
      exact @BindsRoot.source (binder.withSettings wider) container token source hfound
  | imported imp operation hsource hpicked =>
      rw [← hallows.names] at hsource hpicked
      exact @BindsRoot.imported (binder.withSettings wider) container token imp operation hsource
        hpicked
  | unbound operation hsource himport hdotted hpicked =>
      rw [unboundNamed, ← hallows.names] at hpicked
      rw [← hallows.names] at hsource himport
      exact @BindsRoot.unbound (binder.withSettings wider) container token operation hsource himport
        hdotted hpicked

theorem bindsOn_of_allows (hallows : wider.Allows binder.settings) {place : Place}
    {current : ModelType} (hdeclared : segment.isUndeclared = false)
    (hsegment : BindsOn binder place current token segment) :
    BindsOn (binder.withSettings wider) place current token segment := by
  have hproperties (identifier : String) :
      (binder.withSettings wider).propertyNamed? current identifier =
        binder.propertyNamed? current identifier := by
    simp only [propertyNamed?, withSettings, hallows.names]
  have htargets (identifier : String) :
      (binder.withSettings wider).castTargets identifier = binder.castTargets identifier := by
    simp only [castTargets, withSettings, hallows.names]
  cases hsegment with
  | property property hfound =>
      rw [← hproperties] at hfound
      exact @BindsOn.property (binder.withSettings wider) place current token property hfound
  | cast target hproperty htarget hassignable =>
      rw [← hproperties] at hproperty
      rw [← htargets] at htarget
      exact @BindsOn.cast (binder.withSettings wider) place current token target hproperty htarget
        hassignable
  | call operation hproperty htarget hpicked =>
      have hne := List.ne_nil_of_mem (Model.mem_of_selectOverload hpicked).1
      have hmodel : (binder.withSettings wider).model = binder.model := rfl
      rw [← hproperties] at hproperty
      rw [← htargets] at htarget
      rw [← boundCandidates_of_allows hallows hne] at hpicked
      rw [← resultSource?_of_model hmodel]
      exact @BindsOn.call (binder.withSettings wider) place current token operation hproperty
        htarget hpicked
  | undeclared => contradiction

/-! ### Paths -/

theorem runs_of_allows (hallows : wider.Allows binder.settings) {start : Option Place}
    {tokens : List Token} {steps : List Step}
    (hdeclared : ∀ step ∈ steps, step.segment.isUndeclared = false)
    (hruns : Runs binder start tokens steps) :
    Runs (binder.withSettings wider) start tokens steps := by
  induction hruns with
  | nil start => exact .nil start
  | cons hsegment hkey _ ih =>
      rw [List.forall_mem_cons] at hdeclared
      refine .cons ?_ ?_ (ih hdeclared.2)
      · cases hsegment with
        | root hcontainer hsegment =>
            exact .root hcontainer (bindsRoot_of_allows hallows hsegment)
        | next htype hsegment =>
            exact .next htype (bindsOn_of_allows hallows hdeclared.1 hsegment)
      · rw [bindKey_eq_ok_iff, ← hallows.names] at hkey
        exact bindKey_eq_ok_iff.2 hkey

theorem bindChain_of_allows (hallows : wider.Allows binder.settings) {start : Option Place}
    {tokens : List Token} {path : ResourcePath}
    (hdeclared : ∀ segment ∈ path.segments, segment.isUndeclared = false)
    (hbind : binder.bindChain start tokens = .ok path) :
    (binder.withSettings wider).bindChain start tokens = .ok path := by
  obtain ⟨hne, hlength, hplain, hruns⟩ := bindChain_eq_ok_iff.1 hbind
  have hsteps : ∀ step ∈ path.steps, step.segment.isUndeclared = false :=
    fun step hstep => hdeclared _ (path.segment_mem_segments hstep)
  exact bindChain_eq_ok_iff.2
    ⟨hne, hlength.trans hallows.length, hplain, runs_of_allows hallows hsteps hruns⟩

/-- Raw segments whose path has no property that is not declared have the same path when more is
allowed. -/
theorem bindSegments_of_allows (hallows : wider.Allows binder.settings) {texts : List String}
    {path : ResourcePath} (hdeclared : ∀ segment ∈ path.segments, segment.isUndeclared = false)
    (hbind : binder.bindSegments texts = .ok path) :
    (binder.withSettings wider).bindSegments texts = .ok path := by
  obtain ⟨tokens, hspells, hbind⟩ := bindSegments_eq_ok_iff.1 hbind
  exact bindSegments_eq_ok_iff.2 ⟨tokens, hspells, bindChain_of_allows hallows hdeclared hbind⟩

/-- A chain whose path has no property that is not declared has the same path when more is
allowed. -/
theorem bindAt_of_allows (binder : Binder) (wider : Settings) (start : Option NavigationSource)
    (chain : Chain) (path : ResourcePath) (hallows : wider.Allows binder.settings)
    (hbind : binder.bindAt start chain = .ok path)
    (hdeclared : ∀ segment ∈ path.segments, segment.isUndeclared = false) :
    (binder.withSettings wider).bindAt start chain = .ok path := by
  rw [bindAt_eq] at hbind ⊢
  exact bindChain_of_allows hallows hdeclared hbind

/-- Orders, of an open type, with a function that has the name of a property and one that has the
name of none. -/
def openOrders : Declared.Description where
  schemas := [{
    namespaceName := "N"
    entityTypes := [{
      name := "Order", key := some ["Id"], isOpen := true
      properties := [
        { name := "Id", typeName := "Edm.Int32" }, { name := "Note", typeName := "Edm.String" }] }]
    functions := [
      { name := "Note", isBound := true, returnType := some { typeName := "Edm.Int32" }
        parameters := [{ name := "it", typeName := "N.Order" }] },
      { name := "Total", isBound := true, returnType := some { typeName := "N.Order" }
        parameters := [{ name := "it", typeName := "N.Order" }] }]
    containers := [{
      name := "Default", entitySets := [{ name := "Orders", entityType := "N.Order" }] }] }]

/-- A path as long as allowed, with a call, a cast and a property whose name is that of a function
too. -/
theorem bindAt_of_allows_note :
    let binder : Binder := .ofModel (.ofDescription openOrders) { maxSegments := 4 }
    let wider : Settings := { unqualifiedCalls := true, maxSegments := 5 }
    let chain : Chain := .plain "Orders" [⟨none, "7"⟩]
      (.plain "N.Total" [] (.plain "N.Order" [] (.plain "Note" [] .empty)))
    wider.Allows binder.settings ∧
    ∃ path, binder.bindAt none chain = .ok path ∧
      (∀ segment ∈ path.segments, segment.isUndeclared = false) ∧
      (binder.withSettings wider).bindAt none chain = .ok path := by
  intro binder wider chain
  have hallows : wider.Allows binder.settings := ⟨rfl, fun _ => rfl, by decide⟩
  have hpath : ((binder.bindAt none chain).toOption.any fun path =>
      decide (∀ segment ∈ path.segments, segment.isUndeclared = false)) = true := by
    decide +kernel
  obtain ⟨path, hpath, hdeclared⟩ := (Option.any_eq_true _ _).1 hpath
  have hdeclared := of_decide_eq_true hdeclared
  have hbind := Outcome.eq_ok_of_toOption hpath
  exact ⟨hallows, path, hbind, hdeclared,
    bindAt_of_allows binder wider none chain path hallows hbind hdeclared⟩

/-- A property that is not declared gives way to a function of its name. -/
theorem not_bindAt_of_allows :
    let binder : Binder := .ofModel (.ofDescription openOrders) {}
    let chain : Chain := .plain "Orders" [⟨none, "7"⟩] (.plain "Total" [] .empty)
    ∃ path, binder.bindAt none chain = .ok path ∧
      (binder.withSettings { unqualifiedCalls := true }).bindAt none chain ≠ .ok path := by
  intro binder chain
  have hpath : ((binder.bindAt none chain).toOption.any fun path =>
      decide ((binder.withSettings { unqualifiedCalls := true }).bindAt none chain ≠ .ok path)) =
        true := by decide +kernel
  obtain ⟨path, hpath, hne⟩ := (Option.any_eq_true _ _).1 hpath
  exact ⟨path, Outcome.eq_ok_of_toOption hpath, of_decide_eq_true hne⟩

end Binder
end ResourcePaths
