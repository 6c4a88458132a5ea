import ResourcePaths.Proofs.Model.Members
import ResourcePaths.Proofs.Model.Resolution
import ResourcePaths.Proofs.Session.Queries

/-!
# Bindings of navigation properties

A binding says to which source a navigation property leads from an entity set or a singleton.  The
target is looked up when the bindings of the source are resolved, kept as a container and a name, and
looked up again when a navigation asks for it.  The second look-up finds what the first one found, so
that a navigation leads to the target of the first binding that fits the property and has one.
-/

namespace ResourcePaths

/-- The first item of a list of which something holds. -/
def IsFirst {α : Type} (holds : α → Prop) (items : List α) (item : α) : Prop :=
  ∃ front back, items = front ++ item :: back ∧ holds item ∧ ∀ other ∈ front, ¬ holds other

theorem find?_eq_some_iff_isFirst {α : Type} {holds : α → Bool} {items : List α} {item : α} :
    items.find? holds = some item ↔ IsFirst (fun other => holds other = true) items item := by
  rw [List.find?_eq_some_iff_append, IsFirst]
  constructor
  · rintro ⟨hitem, front, back, hitems, hfront⟩
    exact ⟨front, back, hitems, hitem, fun other hother => by simpa using hfront other hother⟩
  · rintro ⟨front, back, hitems, hitem, hfront⟩
    exact ⟨hitem, front, back, hitems, fun other hother => by simpa using hfront other hother⟩

theorem IsFirst.mem {α : Type} {holds : α → Prop} {items : List α} {item : α}
    (h : IsFirst holds items item) : item ∈ items := by
  obtain ⟨front, back, rfl, -, -⟩ := h
  exact List.mem_append_right _ List.mem_cons_self

theorem IsFirst.holds {α : Type} {holds : α → Prop} {items : List α} {item : α}
    (h : IsFirst holds items item) : holds item := by
  obtain ⟨front, back, -, hitem, -⟩ := h
  exact hitem

/-! ### What a target is written for -/

namespace Container

/-- The ways in which a container is written in front of the name of a source: its simple name; its
qualified name, unless what stands in front of the last dot is a short name; and its qualified name
with a short name in place of the namespace that it stands for. -/
inductive IsWritten (model : Model) (container : Container) : String → Prop
  | simple : IsWritten model container container.decl.name
  | full (hkept : model.aliased? (Name.split container.fullName).1 = none) :
      IsWritten model container container.fullName
  | short {text short name namespaceName : String} (hsplit : Name.split text = (short, name))
      (hshort : model.aliased? short = some namespaceName)
      (hname : container.fullName = Name.qualify namespaceName name) :
      IsWritten model container text

/-- The source of a name: the first entity set of that name, or, where there is none, the first
singleton. -/
inductive HasSource (container : Container) (name : String) : DeclaredSource → Prop
  | entitySet {source : DeclaredSource}
      (hfirst : IsFirst (fun other => other.name = name) container.entitySets source) :
      HasSource container name source
  | singleton {source : DeclaredSource} (hnone : ∀ other ∈ container.entitySets, other.name ≠ name)
      (hfirst : IsFirst (fun other => other.name = name) container.singletons source) :
      HasSource container name source

theorem findNamed?_exact_eq_some_iff {α : Type} {nameOf : α → String} {items : List α}
    {name : String} {item : α} :
    findNamed? nameOf items name false = some item ↔
      IsFirst (fun other => nameOf other = name) items item := by
  rw [findNamed?, if_neg (by decide), find?_eq_some_iff_isFirst]
  simp only [decide_eq_true_eq]

theorem findSource?_exact_eq_some_iff {container : Container} {name : String}
    {source : DeclaredSource} :
    container.findSource? name = some source ↔ container.HasSource name source := by
  rw [findSource?, Option.or_eq_some_iff, findEntitySet?, findSingleton?,
    findNamed?_exact_eq_some_iff, findNamed?_exact_eq_some_iff, findNamed?_eq_none_iff]
  constructor
  · rintro (hset | ⟨hnone, hsingleton⟩)
    · exact .entitySet hset
    · exact .singleton (fun other hmem hname => hnone other hmem (.inl hname)) hsingleton
  · rintro (hset | ⟨hnone, hsingleton⟩)
    · exact .inl hset
    · refine .inr ⟨fun other hmem hmatches => ?_, hsingleton⟩
      rcases hmatches with hname | ⟨hcase, -⟩
      · exact hnone other hmem hname
      · contradiction

theorem isWritten_iff {model : Model} {container : Container} {text : String} :
    container.IsWritten model text ↔
      container.decl.name = text ∨ container.fullName = model.normalize text := by
  constructor
  · rintro (_ | hkept | ⟨hsplit, hshort, hname⟩)
    · exact .inl rfl
    · right
      simp only [Model.normalize, hkept]
    · right
      simp only [Model.normalize, hsplit, hshort, hname]
  · rintro (rfl | hname)
    · exact .simple
    · simp only [Model.normalize] at hname
      cases hsplit : Name.split text with
      | mk short name =>
          simp only [hsplit] at hname
          split at hname
          · rename_i namespaceName hshort
            exact .short hsplit hshort hname
          · rename_i hkept
            subst hname
            exact .full (by rwa [hsplit])

end Container

namespace Model

/-- A target leads to a source: one of the container of the binding, or, where something is written
in front of a slash, one of the first container for which that is written. -/
inductive Targets (model : Model) (written : Container → String → Prop) (own : Container) :
    String → DeclaredSource → Prop
  | inOwn {name : String} {source : DeclaredSource} (hslash : '/' ∉ name.toList)
      (hsource : own.HasSource name source) : Targets model written own name source
  | inNamed {front name : String} {container : Container} {source : DeclaredSource}
      (hslash : '/' ∉ front.toList)
      (hfirst : IsFirst (fun other => written other front) model.containers container)
      (hsource : container.HasSource name source) :
      Targets model written own (front ++ "/" ++ name) source

/-- A binding leads from a property to a source. -/
structure Binds (model : Model) (written : Container → String → Prop) (own : Container)
    (property : NavigationProperty) (binding : Declared.Binding) (target : DeclaredSource) :
    Prop where
  fits : bindingFits (some model) binding.path property = true
  targets : model.Targets written own binding.target target

/-! ### Looking a target up -/

variable {model : Model} {own container : Container} {target name : String}

/-- The container and the name that a target stands for. -/
def located? (model : Model) (own : Container) (target : String) : Option (Container × String) :=
  match Text.cutFirst? '/' target.toList with
  | none => some (own, target)
  | some (front, back) =>
    (model.bindingContainer? (String.ofList front)).map fun container =>
      (container, String.ofList back)

/-- The source that a target leads to. -/
def target? (model : Model) (own : Container) (target : String) : Option DeclaredSource :=
  (model.located? own target).bind fun (container, name) => container.findSource? name

theorem bindingContainer?_eq_some_iff {text : String} :
    model.bindingContainer? text = some container ↔
      IsFirst (fun other => other.IsWritten model text) model.containers container := by
  rw [bindingContainer?, find?_eq_some_iff_isFirst]
  simp only [Bool.or_eq_true, decide_eq_true_eq, Container.isWritten_iff]

theorem target?_eq_some_iff {source : DeclaredSource} :
    model.target? own target = some source ↔
      model.Targets (Container.IsWritten model) own target source := by
  constructor
  · intro h
    obtain ⟨⟨container, name⟩, hlocated, hsource⟩ := Option.bind_eq_some_iff.1 h
    rw [located?] at hlocated
    split at hlocated
    · rename_i hcut
      obtain ⟨rfl, rfl⟩ := Prod.mk.inj (Option.some.inj hlocated)
      exact .inOwn (Text.cutFirst?_eq_none_iff.1 hcut)
        (Container.findSource?_exact_eq_some_iff.1 hsource)
    · rename_i front back hcut
      obtain ⟨htext, hslash⟩ := Text.cutFirst?_eq_some_iff.1 hcut
      obtain ⟨container, hcontainer, heq⟩ := Option.map_eq_some_iff.1 hlocated
      obtain ⟨rfl, rfl⟩ := Prod.mk.inj heq
      have htarget : target = String.ofList front ++ "/" ++ String.ofList back := by
        rw [← String.toList_inj]
        simpa using htext
      rw [htarget]
      exact .inNamed (by simpa using hslash) (bindingContainer?_eq_some_iff.1 hcontainer)
        (Container.findSource?_exact_eq_some_iff.1 hsource)
  · rintro (⟨hslash, hsource⟩ | @⟨front, name, container, _, hslash, hfirst, hsource⟩)
    · rw [target?, located?, Text.cutFirst?_eq_none_iff.2 hslash]
      exact Container.findSource?_exact_eq_some_iff.2 hsource
    · have hcut : Text.cutFirst? '/' (front ++ "/" ++ name).toList =
          some (front.toList, name.toList) := by
        simpa using Text.cutFirst?_append hslash name.toList
      rw [target?, located?, hcut]
      simp only [String.ofList_toList, bindingContainer?_eq_some_iff.2 hfirst]
      exact Container.findSource?_exact_eq_some_iff.2 hsource

theorem target?_eq_none_iff :
    model.target? own target = none ↔
      ∀ source, ¬ model.Targets (Container.IsWritten model) own target source := by
  simp only [Option.eq_none_iff_forall_ne_some, ← target?_eq_some_iff, ne_eq]

/-! ### Both look-ups find one source -/

theorem mem_containers : container ∈ model.containers ↔ .container container ∈ model.elements := by
  rw [containers, List.mem_filterMap]
  constructor
  · rintro ⟨element, hmem, helement⟩
    cases element with
    | container node =>
        obtain rfl := Option.some.inj helement
        exact hmem
    | structured | enum | definition | term | operation => contradiction
  · intro hmem
    exact ⟨_, hmem, rfl⟩

/-- A container that a target is in is found by its number. -/
theorem Indexed.container?_of_located? (h : model.Indexed) (hown : .container own ∈ model.elements)
    (hlocated : model.located? own target = some (container, name)) :
    model.container? container.id = some container := by
  refine h.container?_id ?_
  rw [located?] at hlocated
  split at hlocated
  · obtain ⟨rfl, rfl⟩ := Prod.mk.inj (Option.some.inj hlocated)
    exact hown
  · obtain ⟨other, hother, heq⟩ := Option.map_eq_some_iff.1 hlocated
    obtain ⟨rfl, rfl⟩ := Prod.mk.inj heq
    exact mem_containers.1 (List.mem_of_find?_eq_some hother)

theorem Indexed.bindingTarget?_eq (h : model.Indexed) (hown : .container own ∈ model.elements) :
    model.bindingTarget? own.id target =
      (model.located? own target).bind fun (container, name) =>
        (container.findSource? name).map fun _ => (container.id, name) := by
  rw [bindingTarget?, located?]
  cases Text.cutFirst? '/' target.toList with
  | none => simp only [h.container?_id hown, Option.map_some]
  | some cut => rfl

theorem Indexed.bindingTarget?_eq_none_iff (h : model.Indexed)
    (hown : .container own ∈ model.elements) :
    model.bindingTarget? own.id target = none ↔ model.target? own target = none := by
  simp only [h.bindingTarget?_eq hown, target?, Option.bind_eq_none_iff, Option.map_eq_none_iff]

/-- What is kept of a binding whose target exists. -/
def kept? (model : Model) (own : Container) (binding : Declared.Binding) : Option ResolvedBinding :=
  (model.located? own binding.target).bind fun (container, name) =>
    (container.findSource? name).map fun _ => ⟨binding.path, container.id, name⟩

/-- The source that a binding leads to from a property: that of its target, if its path fits. -/
def boundTarget? (model : Model) (own : Container) (property : NavigationProperty)
    (binding : Declared.Binding) : Option DeclaredSource :=
  if bindingFits (some model) binding.path property then model.target? own binding.target else none

theorem Indexed.resolveBindings_eq (h : model.Indexed) (hown : .container own ∈ model.elements)
    {source : DeclaredSource} (hsource : source.container = own.id) :
    (source.resolveBindings model).value = source.bindings.filterMap (model.kept? own) := by
  rw [DeclaredSource.resolveBindings, hsource]
  refine List.filterMap_congr fun binding _ => ?_
  simp only [h.bindingTarget?_eq hown, kept?, Option.map_bind]
  refine Option.bind_congr fun place _ => ?_
  exact Option.map_map ..

/-- A binding is kept if its target leads to a source, and what is kept leads there again. -/
theorem Indexed.kept?_cases (h : model.Indexed) (hown : .container own ∈ model.elements)
    (binding : Declared.Binding) :
    model.kept? own binding = none ∧ model.target? own binding.target = none ∨
      ∃ container name target,
        model.kept? own binding = some ⟨binding.path, container.id, name⟩ ∧
        model.target? own binding.target = some target ∧
        model.container? container.id = some container ∧
        container.findSource? name = some target := by
  cases hlocated : model.located? own binding.target with
  | none => exact .inl (by simp [kept?, target?, hlocated])
  | some place =>
      obtain ⟨container, name⟩ := place
      cases hfound : container.findSource? name with
      | none => exact .inl (by simp [kept?, target?, hlocated, hfound])
      | some target =>
          exact .inr ⟨container, name, target, by simp [kept?, hlocated, hfound],
            by simp [target?, hlocated, hfound], h.container?_of_located? hown hlocated, hfound⟩

/-- The bindings that are kept lead where the first of all bindings leads that fits the property and
has a target. -/
theorem Indexed.bindingSource?_kept (h : model.Indexed) (hown : .container own ∈ model.elements)
    (bindings : List Declared.Binding) (property : NavigationProperty) :
    bindingSource? (some model) (bindings.filterMap (model.kept? own)) property =
      bindings.findSome? (model.boundTarget? own property) := by
  induction bindings with
  | nil => rfl
  | cons binding rest ih =>
      rw [List.findSome?_cons, boundTarget?]
      obtain ⟨hkept, hnone⟩ | ⟨container, name, target, hkept, htarget, hcontainer, hfound⟩ :=
        h.kept?_cases hown binding
      · -- Without a target the binding is passed over on both sides, whether it fits or not.
        rw [List.filterMap_cons_none hkept, hnone, ite_self]
        exact ih
      · rw [List.filterMap_cons_some hkept, htarget, bindingSource?, List.find?_cons]
        cases hfits : bindingFits (some model) binding.path property with
        | true => simp [hcontainer, hfound]
        | false => exact ih

theorem Indexed.navigationTarget?_eq (h : model.Indexed) (hown : .container own ∈ model.elements)
    {source : DeclaredSource} (hsource : source.container = own.id)
    (property : NavigationProperty) :
    model.navigationTarget? (.declared source) property =
      (source.bindings.findSome? (model.boundTarget? own property)).map .declared := by
  rw [navigationTarget?, DeclaredSource.bindingsIn, h.resolveBindings_eq hown hsource,
    h.bindingSource?_kept hown]

/-! ### The first binding with a target -/

theorem boundTarget?_eq_some_iff {property : NavigationProperty} {binding : Declared.Binding}
    {target : DeclaredSource} :
    model.boundTarget? own property binding = some target ↔
      model.Binds (Container.IsWritten model) own property binding target := by
  rw [boundTarget?, Option.ite_none_right_eq_some, target?_eq_some_iff]
  exact ⟨fun h => ⟨h.1, h.2⟩, fun h => ⟨h.fits, h.targets⟩⟩

theorem Indexed.navigationTarget?_eq_some_iff (h : model.Indexed)
    (hown : .container own ∈ model.elements) {source : DeclaredSource}
    (hsource : source.container = own.id) {property : NavigationProperty}
    {found : NavigationSource} :
    model.navigationTarget? (.declared source) property = some found ↔
      ∃ binding target, found = .declared target ∧
        IsFirst (fun other => ∃ source,
          model.Binds (Container.IsWritten model) own property other source)
          source.bindings binding ∧
        model.Binds (Container.IsWritten model) own property binding target := by
  simp only [h.navigationTarget?_eq hown hsource, Option.map_eq_some_iff,
    List.findSome?_eq_some_iff, ← boundTarget?_eq_some_iff, IsFirst, not_exists,
    Option.eq_none_iff_forall_ne_some, ne_eq]
  constructor
  · rintro ⟨target, ⟨front, binding, back, hbindings, htarget, hfront⟩, rfl⟩
    exact ⟨binding, target, rfl, ⟨front, back, hbindings, ⟨target, htarget⟩, hfront⟩, htarget⟩
  · rintro ⟨binding, target, rfl, ⟨front, back, hbindings, -, hfront⟩, htarget⟩
    exact ⟨target, ⟨front, binding, back, hbindings, htarget, hfront⟩, rfl⟩

theorem Indexed.isSome_navigationTarget?_iff (h : model.Indexed)
    (hown : .container own ∈ model.elements) {source : DeclaredSource}
    (hsource : source.container = own.id) {property : NavigationProperty} :
    (model.navigationTarget? (.declared source) property).isSome = true ↔
      ∃ binding ∈ source.bindings, ∃ target,
        model.Binds (Container.IsWritten model) own property binding target := by
  rw [h.navigationTarget?_eq hown hsource, Option.isSome_map, List.findSome?_isSome_iff]
  simp only [Option.isSome_iff_exists, boundTarget?_eq_some_iff]

/-! ### Targets that do not exist -/

/-- No source is what a target stands for. -/
def LeadsNowhere (model : Model) (own : Container) (target : String) : Prop :=
  ∀ source, ¬ model.Targets (Container.IsWritten model) own target source

instance : Decidable (model.LeadsNowhere own target) :=
  decidable_of_iff (model.target? own target = none) target?_eq_none_iff

theorem filter_eq_nil_of_referenceErrors {errors : List ModelError} (h : ReferenceErrors errors) :
    (errors.filter fun error => error.code = .unresolvedNavigationTarget) = [] := by
  refine List.filter_eq_nil_iff.2 fun error hmem hcode => ?_
  have hreference := h error hmem
  rw [of_decide_eq_true hcode] at hreference
  contradiction

/-- A source has one problem of this code for each of its bindings that leads nowhere. -/
theorem Indexed.filter_sourceErrors (h : model.Indexed) (hown : .container own ∈ model.elements)
    {source : DeclaredSource} (hsource : source.container = own.id) :
    ((model.sourceErrors source).filter fun error => error.code = .unresolvedNavigationTarget) =
      (source.bindings.filter fun binding => model.LeadsNowhere own binding.target).map
        fun binding =>
          ⟨source.location, .unknownTarget binding.path source.name binding.target⟩ := by
  have htype : ReferenceErrors (source.referenceIn (some model)).errors :=
    model.referenceErrors_resolveStructured source.typeName .entity source.location .plain
  have hnowhere (binding : Declared.Binding) :
      (model.bindingTarget? source.container binding.target).isNone =
        decide (model.LeadsNowhere own binding.target) := by
    rw [Bool.eq_iff_iff, Option.isNone_iff_eq_none, hsource, h.bindingTarget?_eq_none_iff hown,
      target?_eq_none_iff, decide_eq_true_iff]
    rfl
  -- The problems of the entity type have other codes, and those of the bindings have this one.
  rw [sourceErrors, List.filter_append, filter_eq_nil_of_referenceErrors htype, List.nil_append,
    DeclaredSource.bindingsIn, DeclaredSource.resolveBindings]
  simp only [hnowhere]
  refine List.filter_eq_self.2 fun error hmem => ?_
  obtain ⟨binding, -, rfl⟩ := List.mem_map.1 hmem
  rfl

theorem container_of_mem_sources {container : Container} {source : DeclaredSource}
    (h : source ∈ container.entitySets ++ container.singletons) :
    source.container = container.id := by
  rcases List.mem_append.1 h with hset | hsingleton
  · obtain ⟨_, -, rfl⟩ := List.mem_map.1 hset
    rfl
  · obtain ⟨_, -, rfl⟩ := List.mem_map.1 hsingleton
    rfl

theorem answer_navigationTarget (asked : List Query) (source : NavigationSource)
    (property : NavigationProperty) :
    ((Session.start model).after asked).answer (.navigationTarget source property) =
      model.navigationTarget? source property :=
  (Session.gives_navigationTarget? source property _ (Session.live_after model asked)).1

/-- Whatever has been asked before, a source leads somewhere from a property exactly if one of its
bindings does, and then to where the first such binding leads; and it has one problem for each
binding that leads nowhere. -/
theorem navigationTarget_first (description : Declared.Description) (asked : List Query)
    {container : Container} {source : DeclaredSource}
    (hcontainer : .container container ∈ (ofDescription description).elements)
    (hsource : source ∈ container.entitySets ++ container.singletons)
    (property : NavigationProperty) :
    let model := ofDescription description
    let session := (Session.start model).after asked
    let leads := model.Binds (Container.IsWritten model) container property
    ((session.answer (.navigationTarget (.declared source) property)).isSome = true ↔
      ∃ binding ∈ source.bindings, ∃ target, leads binding target) ∧
    (∀ found, session.answer (.navigationTarget (.declared source) property) = some found ↔
      ∃ binding target, found = .declared target ∧
        IsFirst (fun other => ∃ target, leads other target) source.bindings binding ∧
        leads binding target) ∧
    ((session.answer (.errorsOf (.source source))).filter fun error =>
        error.code = .unresolvedNavigationTarget) =
      (source.bindings.filter fun binding => model.LeadsNowhere container binding.target).map
        fun binding =>
          ⟨source.location, .unknownTarget binding.path source.name binding.target⟩ := by
  intro model session leads
  have hindexed := indexed_ofDescription description
  have hown := container_of_mem_sources hsource
  have herrors : session.answer (.errorsOf (.source source)) = model.sourceErrors source :=
    (Session.gives_sourceErrors source session (Session.live_after model asked)).1
  rw [answer_navigationTarget, herrors]
  exact ⟨hindexed.isSome_navigationTarget?_iff hcontainer hown,
    fun found => hindexed.navigationTarget?_eq_some_iff hcontainer hown,
    hindexed.filter_sourceErrors hcontainer hown⟩

/-- An order with its customer. -/
def order : Declared.StructuredType where
  name := "Order"
  navigationProperties := [{ name := "Customer", typeName := "Trade.Customer" }]

/-- The customers of an archive. -/
def archive : Declared.Container where
  name := "Archive"
  entitySets := [{ name := "Customers", entityType := "Trade.Customer" }]

/-- Orders with bindings to given targets, and customers. -/
def orders (targets : List String) : Declared.Container where
  name := "Main"
  entitySets := [
    { name := "Orders", entityType := "Trade.Order"
      bindings := targets.map fun target => { path := "Customer", target } },
    { name := "Customers", entityType := "Trade.Customer" }]

/-- Orders and an archive, in a namespace with a short name. -/
def trade : Declared.Description where
  schemas := [{
    namespaceName := "Trade", shortName := some "T"
    entityTypes := [order, { name := "Customer" }]
    containers := [archive, orders ["Missing", "T.Archive/Customers", "Customers"]] }]

/-- The customer of an order is among those of the archive, which the second binding names; the first
one names nothing. -/
theorem navigationTarget_first_orders :
    let model := ofDescription trade
    let session := Session.start model
    let own : Container := ⟨3, "Trade", orders ["Missing", "T.Archive/Customers", "Customers"]⟩
    let property : NavigationProperty :=
      ⟨0, 0, { name := "Customer", typeName := "Trade.Customer" }⟩
    ∃ source target binding, .container own ∈ model.elements ∧ source ∈ own.entitySets ∧
      session.answer (.navigationTarget (.declared source) property) = some (.declared target) ∧
      target.container = 2 ∧ target.name = "Customers" ∧
      model.Binds (Container.IsWritten model) own property binding target ∧
      (session.answer (.errorsOf (.source source))).filter
        (fun error => error.code = .unresolvedNavigationTarget) =
          [⟨{}, .unknownTarget "Customer" "Orders" "Missing"⟩] := by
  intro model session own property
  have hown : .container own ∈ model.elements := by decide +kernel
  let source : DeclaredSource :=
    ⟨3, .entitySet, 0, "Orders", "Trade.Order",
      [⟨"Customer", "Missing"⟩, ⟨"Customer", "T.Archive/Customers"⟩, ⟨"Customer", "Customers"⟩],
      true, {}⟩
  let target : DeclaredSource :=
    ⟨2, .entitySet, 0, "Customers", "Trade.Customer", [], true, {}⟩
  have hset : source ∈ own.entitySets := by decide +kernel
  have htarget : session.answer (.navigationTarget (.declared source) property) =
      some (.declared target) := by decide +kernel
  obtain ⟨-, hfirst, herrors⟩ :=
    navigationTarget_first trade [] hown (List.mem_append_left _ hset) property
  obtain ⟨binding, _, heq, -, hbinds⟩ := (hfirst (.declared target)).1 htarget
  obtain rfl := NavigationSource.declared.inj heq
  exact ⟨source, target, binding, hown, hset, htarget, rfl, rfl, hbinds,
    herrors.trans (by decide +kernel)⟩

end Model

/-- A name of a container: its simple name, its qualified name, or its qualified name with a short
name for the namespace. -/
def Container.IsNamed (model : Model) (container : Container) (text : String) : Prop :=
  text = container.decl.name ∨ text = container.fullName ∨
    ∃ short, model.aliased? short = some container.namespaceName ∧
      text = Name.qualify short container.decl.name

namespace Model

/-- Orders and an archive in a namespace whose name is a short name for that of their types. -/
def shadowedTrade : Declared.Description where
  schemas := [
    { namespaceName := "Trade", shortName := some "Sales"
      entityTypes := [order, { name := "Customer" }] },
    { namespaceName := "Sales", shortName := some "S"
      containers := [archive, orders ["Sales.Archive/Customers"]] }]

/-- The qualified name of a container is not enough: it is read with a short name in front where it
begins with one. -/
theorem not_navigationTarget_first :
    ¬ ∀ (description : Declared.Description) (asked : List Query) (container : Container)
      (source : DeclaredSource), .container container ∈ (ofDescription description).elements →
      source ∈ container.entitySets ++ container.singletons → ∀ property : NavigationProperty,
      let model := ofDescription description
      let session := (Session.start model).after asked
      ((session.answer (.navigationTarget (.declared source) property)).isSome = true ↔
        ∃ binding ∈ source.bindings, ∃ target,
          model.Binds (Container.IsNamed model) container property binding target) := by
  intro h
  let own : Container := ⟨3, "Sales", orders ["Sales.Archive/Customers"]⟩
  let other : Container := ⟨2, "Sales", archive⟩
  let source : DeclaredSource :=
    ⟨3, .entitySet, 0, "Orders", "Trade.Order", [⟨"Customer", "Sales.Archive/Customers"⟩], true, {}⟩
  let target : DeclaredSource :=
    ⟨2, .entitySet, 0, "Customers", "Trade.Customer", [], true, {}⟩
  let property : NavigationProperty :=
    ⟨0, 0, { name := "Customer", typeName := "Trade.Customer" }⟩
  have hown : .container own ∈ (ofDescription shadowedTrade).elements := by decide +kernel
  have hsource : source ∈ own.entitySets ++ own.singletons := by decide +kernel
  have hfits : bindingFits (some (ofDescription shadowedTrade)) "Customer" property = true := by
    decide +kernel
  have htargets : (ofDescription shadowedTrade).Targets
      (Container.IsNamed (ofDescription shadowedTrade)) own "Sales.Archive/Customers" target := by
    have hother : other.HasSource "Customers" target :=
      .entitySet ⟨[], [], by decide +kernel, rfl, List.forall_mem_nil _⟩
    have hfirst : IsFirst (fun found => found.IsNamed (ofDescription shadowedTrade) "Sales.Archive")
        (ofDescription shadowedTrade).containers other :=
      ⟨[], [own], by decide +kernel, .inr (.inl (by decide +kernel)), List.forall_mem_nil _⟩
    exact .inNamed (by decide) hfirst hother
  have hsome := (h shadowedTrade [] own source hown hsource property).2
    ⟨_, List.mem_singleton_self _, target, hfits, htargets⟩
  revert hsome
  decide +kernel

end Model
end ResourcePaths
