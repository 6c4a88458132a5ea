import ResourcePaths.Proofs.Model.Bindings
import ResourcePaths.Proofs.Model.Imports

/-!
# The entity sets of imports

An import names the entity set of its results in the same way as a binding names its target, and looks
it up in another way: behind the last slash of the name, and in its own container.  The two look-ups
agree on the sets of that container whose names have no slash, and on no other.
-/

namespace ResourcePaths

/-- A name is the last part of a text between slashes. -/
structure EndsAt (text name : String) : Prop where
  slash : '/' ∉ name.toList
  text_eq : text = name ∨ ∃ front, text = front ++ "/" ++ name

variable {own : Container} {imp : OperationImport} {found target : DeclaredSource}
  {text name : String}

namespace OperationImport

/-- An import looks for the entity set of the last part of the name that is written. -/
theorem setName?_eq_some_iff (hset : imp.entitySet = some text) :
    imp.setName? = some name ↔ EndsAt text name := by
  rw [setName?, hset, Option.map_some, Option.some.injEq]
  constructor
  · intro h
    split at h
    · rename_i front back hcut
      obtain ⟨-, hslash⟩ := Text.cutLast?_eq_some_iff.1 hcut
      subst h
      refine ⟨by rwa [String.toList_ofList], .inr ⟨String.ofList front, ?_⟩⟩
      exact Text.eq_join_of_cutLast? rfl hcut
    · rename_i hcut
      subst h
      exact ⟨Text.cutLast?_eq_none_iff.1 hcut, .inl rfl⟩
  · rintro ⟨hslash, rfl | ⟨front, rfl⟩⟩
    · rw [Text.cutLast?_eq_none_iff.2 hslash]
    · rw [Text.cutLast?_join rfl front hslash]
      exact String.ofList_toList

end OperationImport

namespace Container

theorem container_of_mem_imports (h : imp ∈ own.imports) : imp.container = own.id := by
  simp only [imports, List.mem_map] at h
  obtain ⟨⟨make, position⟩, hnumbered, rfl⟩ := h
  have hmake := List.fst_mem_of_mem_zipIdx hnumbered
  rcases List.mem_append.1 hmake with haction | hfunction
  · obtain ⟨decl, -, rfl⟩ := List.mem_map.1 haction
    rfl
  · obtain ⟨decl, -, rfl⟩ := List.mem_map.1 hfunction
    rfl

theorem HasSource.mem (h : own.HasSource name target) :
    target ∈ own.entitySets ++ own.singletons := by
  cases h with
  | entitySet hfirst => exact List.mem_append_left _ hfirst.mem
  | singleton _ hfirst => exact List.mem_append_right _ hfirst.mem

theorem HasSource.name_eq (h : own.HasSource name target) : target.name = name := by
  cases h with
  | entitySet hfirst => exact hfirst.holds
  | singleton _ hfirst => exact hfirst.holds

/-- An entity set of a name is the first one of that name. -/
theorem hasSource_entitySet_iff (hkind : target.kind = .entitySet) :
    own.HasSource name target ↔
      IsFirst (fun other => other.name = name) own.entitySets target := by
  constructor
  · rintro (hfirst | ⟨-, hfirst⟩)
    · exact hfirst
    · rw [kind_of_mem_singletons hfirst.mem] at hkind
      contradiction
  · exact .entitySet

end Container

namespace Model

variable {model : Model}

/-- The entity set of an import is the first one of the last part of the name, in its own
container. -/
theorem Indexed.importedSet?_eq_some_iff (h : model.Indexed)
    (hown : .container own ∈ model.elements) (himp : imp ∈ own.imports)
    (hset : imp.entitySet = some text) :
    model.importedSet? imp = some found ↔
      EndsAt text found.name ∧
        IsFirst (fun other => other.name = found.name) own.entitySets found := by
  have hcontainer : model.container? imp.container = some own := by
    rw [Container.container_of_mem_imports himp]
    exact h.container?_id hown
  constructor
  · intro himported
    obtain ⟨name, hname, himported⟩ := Option.bind_eq_some_iff.1 himported
    obtain ⟨_, ⟨rfl⟩, himported⟩ := Option.bind_eq_some_iff.1 himported
    obtain ⟨container, hfound, himported⟩ := Option.bind_eq_some_iff.1 himported
    rw [hcontainer] at hfound
    obtain rfl := Option.some.inj hfound
    have hfirst := Container.findNamed?_exact_eq_some_iff.1 himported
    obtain rfl : found.name = name := hfirst.holds
    exact ⟨(OperationImport.setName?_eq_some_iff hset).1 hname, hfirst⟩
  · rintro ⟨hends, hfirst⟩
    have hname := (OperationImport.setName?_eq_some_iff hset).2 hends
    have hfound := Container.findNamed?_exact_eq_some_iff.2 hfirst
    simp only [importedSet?, OperationImport.entitySetIn?, hname, hcontainer, Option.bind_eq_bind,
      Option.bind_some]
    exact hfound

/-- A container with a source that a target leads to: the own one, or one of the model. -/
theorem Targets.hasSource {written : Container → String → Prop}
    (hown : .container own ∈ model.elements) (h : model.Targets written own text target) :
    ∃ container, .container container ∈ model.elements ∧
      container.HasSource target.name target ∧ (text = target.name ∨
        ∃ front, text = front ++ "/" ++ target.name) := by
  cases h with
  | inOwn hslash hsource =>
      obtain rfl := hsource.name_eq
      exact ⟨own, hown, hsource, .inl rfl⟩
  | @inNamed front _ container _ hslash hfirst hsource =>
      obtain rfl := hsource.name_eq
      exact ⟨container, mem_containers.1 hfirst.mem, hsource, .inr ⟨front, rfl⟩⟩

/-- Where a target leads to an entity set, an import with the same name in the same container has that
entity set exactly if it is one of the container and has no slash in its name. -/
theorem Indexed.importedSet?_of_targets (h : model.Indexed)
    (hown : .container own ∈ model.elements) (himp : imp ∈ own.imports)
    (hset : imp.entitySet = some text) {written : Container → String → Prop}
    (htargets : model.Targets written own text target) (hkind : target.kind = .entitySet) :
    model.importedSet? imp = some target ↔
      target.container = own.id ∧ '/' ∉ target.name.toList := by
  rw [h.importedSet?_eq_some_iff hown himp hset]
  constructor
  · rintro ⟨hends, hfirst⟩
    exact ⟨container_of_mem_sources (List.mem_append_left _ hfirst.mem), hends.slash⟩
  · rintro ⟨hcontainer, hslash⟩
    obtain ⟨container, hmem, hsource, htext⟩ := htargets.hasSource hown
    -- The container of the target is the own one, as they have one number.
    rw [container_of_mem_sources hsource.mem] at hcontainer
    obtain rfl := Element.container.inj (h.eq_of_id_eq hmem hown hcontainer)
    exact ⟨⟨hslash, htext⟩, (Container.hasSource_entitySet_iff hkind).1 hsource⟩

/-! ### Any session -/

/-- Whatever has been asked before, an import has the entity set that a binding of its container with
the same name leads to exactly if that is a set of the container without a slash in its name; and in
any case it has the first set of its container whose name is the last part of the name written. -/
theorem importedSet_of_targets (description : Declared.Description) (asked : List Query)
    (hown : .container own ∈ (ofDescription description).elements) (himp : imp ∈ own.imports)
    (hset : imp.entitySet = some text) :
    let model := ofDescription description
    let session := (Session.start model).after asked
    (∀ target, model.Targets (Container.IsWritten model) own text target →
      target.kind = .entitySet →
      (session.answer (.importedSet imp) = some target ↔
        target.container = own.id ∧ '/' ∉ target.name.toList)) ∧
    (∀ found, session.answer (.importedSet imp) = some found ↔
      EndsAt text found.name ∧
        IsFirst (fun other => other.name = found.name) own.entitySets found) := by
  intro model session
  have hindexed : model.Indexed := indexed_ofDescription description
  have hanswer : session.answer (.importedSet imp) = model.importedSet? imp :=
    (Session.gives_importedSet? imp session (Session.live_after model asked)).1
  rw [hanswer]
  exact ⟨fun target htargets hkind =>
      hindexed.importedSet?_of_targets hown himp hset htargets hkind,
    fun found => hindexed.importedSet?_eq_some_iff hown himp hset⟩

/-- Orders with their customers, the import of the latest customer, and further sets; the target of
the binding and the entity set of the import are written in the same way. -/
def latest (name : String) (others : List Declared.EntitySet) : Declared.Container where
  name := "Main"
  entitySets := { name := "Orders", entityType := "Trade.Order"
                  bindings := [{ path := "Customer", target := name }] } :: others
  functionImports := [{ name := "Latest", function := "Trade.Latest", entitySet := some name }]

/-- An archive of customers, and the orders. -/
def latestTrade (name : String) (others : List Declared.EntitySet) : Declared.Description where
  schemas := [{
    namespaceName := "Trade"
    entityTypes := [order, { name := "Customer" }]
    functions := [{ name := "Latest", returnType := some { typeName := "Trade.Customer" } }]
    containers := [archive, latest name others] }]

/-- The import, in the last container. -/
def latestImport (name : String) : OperationImport :=
  ⟨4, 0, .function, "Latest", "Trade.Latest", some name, false, {}⟩

/-- The customers of the own container are found by the binding and by the import, with the name of
the container in front. -/
theorem importedSet_of_targets_latest :
    let customers : Declared.EntitySet := { name := "Customers", entityType := "Trade.Customer" }
    let own : Container := ⟨4, "Trade", latest "Main/Customers" [customers]⟩
    let model := ofDescription (latestTrade "Main/Customers" [customers])
    let session := Session.start model
    ∃ target, model.Targets (Container.IsWritten model) own "Main/Customers" target ∧
      session.answer (.importedSet (latestImport "Main/Customers")) = some target := by
  intro customers own model session
  let target : DeclaredSource := ⟨4, .entitySet, 1, "Customers", "Trade.Customer", [], true, {}⟩
  have hown : .container own ∈ model.elements := by decide +kernel
  have himp : latestImport "Main/Customers" ∈ own.imports := by decide +kernel
  have htarget : model.target? own "Main/Customers" = some target := by decide +kernel
  have htargets := target?_eq_some_iff.1 htarget
  refine ⟨target, htargets, ?_⟩
  exact ((importedSet_of_targets _ [] hown himp rfl).1 target htargets rfl).2 ⟨rfl, by decide⟩

/-- The customers of the archive are found by the binding alone. -/
theorem not_importedSet_of_targets :
    ¬ ∀ (description : Declared.Description) (asked : List Query) (own : Container)
      (imp : OperationImport) (text : String) (target : DeclaredSource),
      .container own ∈ (ofDescription description).elements → imp ∈ own.imports →
      imp.entitySet = some text →
      (∃ source ∈ own.entitySets ++ own.singletons, ∃ binding ∈ source.bindings,
        binding.target = text) →
      let model := ofDescription description
      model.Targets (Container.IsWritten model) own text target → target.kind = .entitySet →
      ((Session.start model).after asked).answer (.importedSet imp) = some target := by
  intro h
  let own : Container := ⟨4, "Trade", latest "Archive/Customers" []⟩
  let model := ofDescription (latestTrade "Archive/Customers" [])
  let target : DeclaredSource := ⟨3, .entitySet, 0, "Customers", "Trade.Customer", [], true, {}⟩
  have hown : .container own ∈ model.elements := by decide +kernel
  have himp : latestImport "Archive/Customers" ∈ own.imports := by decide +kernel
  have hbinding : ∃ source ∈ own.entitySets ++ own.singletons, ∃ binding ∈ source.bindings,
      binding.target = "Archive/Customers" :=
    ⟨_, List.mem_cons_self, _, List.mem_cons_self, rfl⟩
  have htarget : model.target? own "Archive/Customers" = some target := by decide +kernel
  have hsame := h _ [] own (latestImport "Archive/Customers") "Archive/Customers" target hown himp
    rfl hbinding (target?_eq_some_iff.1 htarget) rfl
  revert hsame
  decide +kernel

end Model
end ResourcePaths
