import ResourcePaths.Proofs.Model.BaseChains
import ResourcePaths.Proofs.Model.BindingPaths

/-!
# How the path of a binding is written

Two models that differ in paths of bindings alone have the same types, and their targets lead to the
same sources.  So what a source leads to depends on the paths of its own bindings and nothing else.
In such a path a qualified name is compared as it is written.  With a short name in front it is that
of no type, and the binding might as well not be there.
-/

namespace ResourcePaths

/-! ### Descriptions up to paths -/

namespace Declared

def Binding.unpathed (binding : Binding) : Binding :=
  { binding with path := "" }

def EntitySet.unpathed (set : EntitySet) : EntitySet :=
  { set with bindings := set.bindings.map Binding.unpathed }

def Singleton.unpathed (singleton : Singleton) : Singleton :=
  { singleton with bindings := singleton.bindings.map Binding.unpathed }

def Container.unpathed (container : Container) : Container :=
  { container with
    entitySets := container.entitySets.map EntitySet.unpathed
    singletons := container.singletons.map Singleton.unpathed }

def Schema.unpathed (schema : Schema) : Schema :=
  { schema with containers := schema.containers.map Container.unpathed }

/-- The description without the paths of its bindings. -/
def Description.unpathed (description : Description) : Description :=
  { description with schemas := description.schemas.map Schema.unpathed }

end Declared

/-! ### Models up to paths -/

def DeclaredSource.unpathed (source : DeclaredSource) : DeclaredSource :=
  { source with bindings := source.bindings.map Declared.Binding.unpathed }

def NavigationSource.unpathed : NavigationSource → NavigationSource
  | declared source => .declared source.unpathed
  | unknown parent property => .unknown parent.unpathed property

def Container.unpathed (container : Container) : Container :=
  { container with decl := container.decl.unpathed }

def Element.unpathed : Element → Element
  | container node => .container node.unpathed
  | element => element

def Model.unpathed (model : Model) : Model :=
  { model with elements := model.elements.map Element.unpathed }

namespace Element

@[simp]
theorem id_unpathed (element : Element) : element.unpathed.id = element.id := by
  cases element <;> rfl

@[simp]
theorem fullName_unpathed (element : Element) : element.unpathed.fullName = element.fullName := by
  cases element <;> rfl

@[simp]
theorem structured?_unpathed (element : Element) :
    element.unpathed.structured? = element.structured? := by
  cases element <;> rfl

@[simp]
theorem container?_unpathed (element : Element) :
    element.unpathed.container? = element.container?.map Container.unpathed := by
  cases element <;> rfl

end Element

namespace Model

theorem elements_unpathed (schema : Declared.Schema) :
    schema.unpathed.elements = schema.elements.map fun make id => (make id).unpathed := by
  simp only [Declared.Schema.elements, Declared.Schema.unpathed, List.map_append, List.map_map]
  rfl

theorem ofElements_unpathed (elements : List Element) :
    NameIndex.ofElements (elements.map Element.unpathed) = NameIndex.ofElements elements := by
  simp only [NameIndex.ofElements, List.foldl_map, Element.fullName_unpathed, Element.id_unpathed]

/-- It makes no difference whether the paths are dropped before a model is built or afterwards. -/
theorem ofDescription_unpathed (description : Declared.Description) :
    ofDescription description.unpathed = (ofDescription description).unpathed := by
  have helements : (ofDescription description.unpathed).elements =
      (ofDescription description).elements.map Element.unpathed := by
    simp only [ofDescription, Declared.Description.unpathed, List.flatMap_map, elements_unpathed,
      ← List.map_flatMap, List.zipIdx_map, List.map_map]
    rfl
  simp only [ofDescription, unpathed, mk.injEq] at helements ⊢
  refine ⟨helements, ?_, ?_, ?_⟩
  · rw [helements, ofElements_unpathed]
  · rw [Declared.Description.unpathed, List.filterMap_map]
    rfl
  · rw [Declared.Description.unpathed, List.flatMap_map]
    rfl

variable (model : Model)

theorem element?_unpathed (id : ElementId) :
    model.unpathed.element? id = (model.element? id).map Element.unpathed :=
  List.getElem?_map ..

theorem structured?_unpathed (id : ElementId) :
    model.unpathed.structured? id = model.structured? id := by
  rw [structured?, element?_unpathed, Option.bind_map]
  simp only [Function.comp_def, Element.structured?_unpathed]
  rfl

theorem container?_unpathed (id : ElementId) :
    model.unpathed.container? id = (model.container? id).map Container.unpathed := by
  rw [container?, element?_unpathed, Option.bind_map, container?, Option.map_bind]
  simp only [Function.comp_def, Element.container?_unpathed]

theorem containers_unpathed :
    model.unpathed.containers = model.containers.map Container.unpathed := by
  rw [containers, unpathed, List.filterMap_map, containers, List.map_filterMap]
  simp only [Function.comp_def, Element.container?_unpathed]

theorem bindingFits_unpathed (path : String) (property : NavigationProperty) :
    bindingFits (some model.unpathed) path property = bindingFits (some model) path property := by
  simp only [bindingFits, Option.bind_some, structured?_unpathed]

end Model

/-! ### Targets up to paths -/

namespace Container

variable (container : Container)

theorem entitySets_unpathed :
    container.unpathed.entitySets = container.entitySets.map DeclaredSource.unpathed := by
  simp only [entitySets, unpathed, Declared.Container.unpathed, List.zipIdx_map, List.map_map]
  rfl

theorem singletons_unpathed :
    container.unpathed.singletons = container.singletons.map DeclaredSource.unpathed := by
  simp only [singletons, unpathed, Declared.Container.unpathed, List.zipIdx_map, List.map_map]
  rfl

theorem findSource?_unpathed (name : String) :
    container.unpathed.findSource? name =
      (container.findSource? name).map DeclaredSource.unpathed := by
  simp only [findSource?, findEntitySet?, findSingleton?, findNamed?, Bool.false_eq_true, if_false,
    entitySets_unpathed, singletons_unpathed, List.find?_map, Option.map_or]
  rfl

end Container

namespace Model

variable (model : Model) (own : Container)

theorem bindingContainer?_unpathed (name : String) :
    model.unpathed.bindingContainer? name =
      (model.bindingContainer? name).map Container.unpathed := by
  rw [bindingContainer?, containers_unpathed, List.find?_map]
  rfl

theorem target?_unpathed (target : String) :
    model.unpathed.target? own.unpathed target =
      (model.target? own target).map DeclaredSource.unpathed := by
  rw [target?, target?, located?, located?]
  cases Text.cutFirst? '/' target.toList with
  | none => exact own.findSource?_unpathed target
  | some cut =>
      simp only [bindingContainer?_unpathed]
      cases model.bindingContainer? (String.ofList cut.1) with
      | none => rfl
      | some container => exact container.findSource?_unpathed _

theorem boundTarget?_unpathed (property : NavigationProperty) (binding : Declared.Binding) :
    model.unpathed.boundTarget? own.unpathed property binding =
      (model.boundTarget? own property binding).map DeclaredSource.unpathed := by
  rw [boundTarget?, boundTarget?, bindingFits_unpathed, target?_unpathed]
  split <;> rfl

variable {model own}

/-- Up to paths, what a source leads to depends on its bindings and on the model up to paths. -/
theorem Indexed.navigationTarget?_unpathed (h : model.Indexed)
    (hown : .container own ∈ model.elements) {source : DeclaredSource}
    (hsource : source.container = own.id) (property : NavigationProperty) :
    (model.navigationTarget? (.declared source) property).map NavigationSource.unpathed =
      (source.bindings.findSome? (model.unpathed.boundTarget? own.unpathed property)).map
        .declared := by
  have hbound : model.unpathed.boundTarget? own.unpathed property =
      Option.map DeclaredSource.unpathed ∘ model.boundTarget? own property :=
    funext fun binding => model.boundTarget?_unpathed own property binding
  rw [h.navigationTarget?_eq hown hsource, hbound, ← List.map_findSome?, Option.map_map,
    Option.map_map]
  rfl

end Model

/-! ### A short name in a path -/

theorem findSome?_of_none {α β : Type} {f : α → Option β} {item : α} (h : f item = none)
    (front back : List α) : (front ++ item :: back).findSome? f = (front ++ back).findSome? f := by
  rw [List.findSome?_append, List.findSome?_cons, h, List.findSome?_append]

theorem Name.namespace_eq_of_qualify_eq {namespaceName short name : String}
    (h : qualify namespaceName name = short ++ "." ++ name) : namespaceName = short := by
  have hlist := congrArg String.toList h
  rw [qualify] at hlist
  split at hlist
  · -- A name by itself is shorter than one with a dot in front.
    have hlength := congrArg List.length hlist
    simp only [String.toList_append, List.length_append] at hlength
    have hdot : ".".toList.length = 1 := rfl
    omega
  · simp only [String.toList_append, List.append_assoc, List.append_cancel_right_eq] at hlist
    exact String.toList_inj.1 hlist

open Model (ofDescription)

/-- Two descriptions that are alike up to paths of bindings, and a source in both of them.  Its
bindings differ in one path to a property of a type: it begins with the qualified name of the type in
the first description and with a short name for its namespace in the second one. -/
structure Shortening where
  description : Declared.Description
  shortened : Declared.Description
  alike : shortened.unpathed = description.unpathed
  /-- The container of the source in the first description. -/
  container : Container
  source : DeclaredSource
  container_mem : .container container ∈ (ofDescription description).elements
  source_mem : source ∈ container.entitySets ++ container.singletons
  /-- The container of the source in the second description. -/
  shortContainer : Container
  shortSource : DeclaredSource
  shortContainer_mem : .container shortContainer ∈ (ofDescription shortened).elements
  shortSource_mem : shortSource ∈ shortContainer.entitySets ++ shortContainer.singletons
  source_alike : shortSource.unpathed = source.unpathed
  type : StructuredType
  property : NavigationProperty
  /-- The short name. -/
  short : String
  type_mem : .structured type ∈ (ofDescription description).elements
  property_mem : .navigation property ∈ type.declaredProperties
  slash_notMem : '/' ∉ property.decl.name.toList
  aliased : (ofDescription description).aliased? short = some type.namespaceName
  /-- The bindings in front of the one that differs. -/
  front : List Declared.Binding
  target : String
  /-- The bindings behind the one that differs. -/
  back : List Declared.Binding
  bindings : source.bindings =
    front ++ ⟨type.fullName ++ "/" ++ property.decl.name, target⟩ :: back
  shortBindings : shortSource.bindings =
    front ++ ⟨short ++ "." ++ type.decl.name ++ "/" ++ property.decl.name, target⟩ :: back

namespace Shortening

variable (change : Shortening)

def model : Model := ofDescription change.description

def shortModel : Model := ofDescription change.shortened

/-- The source without the binding that differs. -/
def without : DeclaredSource :=
  { change.source with bindings := change.front ++ change.back }

/-- What the type is called with the short name. -/
def shortName : String := change.short ++ "." ++ change.type.decl.name

/-- Whether a property is declared by a type that is really called what stands in the path with the
short name. -/
def IsOfShortName (property : NavigationProperty) : Prop :=
  ∃ declaring, change.model.structured? property.declaring = some declaring ∧
    declaring.fullName = change.shortName

theorem indexed_model : change.model.Indexed :=
  Model.indexed_ofDescription _

theorem indexed_shortModel : change.shortModel.Indexed :=
  Model.indexed_ofDescription _

theorem unpathed_shortModel : change.shortModel.unpathed = change.model.unpathed := by
  rw [model, shortModel, ← Model.ofDescription_unpathed, ← Model.ofDescription_unpathed,
    change.alike]

theorem source_container : change.source.container = change.container.id :=
  Model.container_of_mem_sources change.source_mem

theorem without_container : change.without.container = change.container.id :=
  change.source_container

theorem shortSource_container : change.shortSource.container = change.shortContainer.id :=
  Model.container_of_mem_sources change.shortSource_mem

theorem unpathed_shortContainer :
    change.shortContainer.unpathed = change.container.unpathed := by
  have hid : change.shortContainer.id = change.container.id := by
    rw [← change.shortSource_container, ← change.source_container]
    show change.shortSource.unpathed.container = change.source.unpathed.container
    rw [change.source_alike]
  -- The containers have one number, and without paths the models are one.
  have hcontainer := change.model.container?_unpathed change.container.id
  have hshort := change.shortModel.container?_unpathed change.shortContainer.id
  rw [change.indexed_model.container?_id change.container_mem] at hcontainer
  rw [change.indexed_shortModel.container?_id change.shortContainer_mem, hid,
    unpathed_shortModel, hcontainer] at hshort
  exact (Option.some.inj hshort).symm

/-- What bindings lead to from a property in both models, up to paths. -/
def lead (property : NavigationProperty) (bindings : List Declared.Binding) :
    Option NavigationSource :=
  (bindings.findSome?
    (change.model.unpathed.boundTarget? change.container.unpathed property)).map .declared

variable {change} {property : NavigationProperty}

theorem answer_model (asked : List Query) {source : DeclaredSource}
    (hsource : source.container = change.container.id) :
    (((Session.start change.model).after asked).answer
        (.navigationTarget (.declared source) property)).map NavigationSource.unpathed =
      change.lead property source.bindings := by
  rw [Model.answer_navigationTarget]
  exact change.indexed_model.navigationTarget?_unpathed change.container_mem hsource _

theorem answer_shortModel (asked : List Query) :
    (((Session.start change.shortModel).after asked).answer
        (.navigationTarget (.declared change.shortSource) property)).map
          NavigationSource.unpathed =
      change.lead property change.shortSource.bindings := by
  rw [Model.answer_navigationTarget, lead, ← unpathed_shortModel, ← unpathed_shortContainer]
  exact change.indexed_shortModel.navigationTarget?_unpathed change.shortContainer_mem
    change.shortSource_container _

/-- The qualified name in a path is compared with that of the declaring type as it is. -/
theorem not_fits_short (h : ¬ change.IsOfShortName property) :
    ¬ change.model.FitsPath property (change.shortName ++ "/" ++ change.property.decl.name) := by
  intro hfits
  have hdot : '.' ∈ change.shortName.toList := by simp [shortName]
  exact h (hfits.of_cast change.slash_notMem hdot).2

theorem lead_of_not_fits {path target : String} (h : ¬ change.model.FitsPath property path)
    (front back : List Declared.Binding) :
    change.lead property (front ++ ⟨path, target⟩ :: back) =
      change.lead property (front ++ back) := by
  have hnone : change.model.unpathed.boundTarget? change.container.unpathed property
      ⟨path, target⟩ = none := by
    rw [Model.boundTarget?, Model.bindingFits_unpathed, if_neg (mt Model.bindingFits_iff.1 h)]
  rw [lead, findSome?_of_none hnone, lead]

/-- The type that declares the property is not called so, unless the short name is the namespace. -/
theorem not_isOfShortName (h : change.short ≠ change.type.namespaceName) :
    ¬ change.IsOfShortName change.property := by
  rintro ⟨declaring, hdeclaring, hname⟩
  have hid : change.property.declaring = change.type.id :=
    StructuredType.declaring_of_mem_declaredProperties change.property_mem
  rw [hid, change.indexed_model.structured?_id change.type_mem] at hdeclaring
  obtain rfl := Option.some.inj hdeclaring
  exact h (Name.namespace_eq_of_qualify_eq hname).symm

/-- With the short name the source leads everywhere as it does without the binding, and so elsewhere
than before only where the binding fitted; a property whose declaring type has the name that stands
in the path is left out, and the one that is meant is not of that kind. -/
theorem navigationTarget_shortened (change : Shortening) (asked shortAsked : List Query) :
    let session := (Session.start change.model).after asked
    let shortSession := (Session.start change.shortModel).after shortAsked
    let shortAnswer (property : NavigationProperty) :=
      (shortSession.answer (.navigationTarget (.declared change.shortSource) property)).map
        NavigationSource.unpathed
    (∀ property, ¬ change.IsOfShortName property →
      shortAnswer property =
        (session.answer (.navigationTarget (.declared change.without) property)).map
          NavigationSource.unpathed ∧
      (¬ change.model.FitsPath property
          (change.type.fullName ++ "/" ++ change.property.decl.name) →
        shortAnswer property =
          (session.answer (.navigationTarget (.declared change.source) property)).map
            NavigationSource.unpathed)) ∧
    (change.short ≠ change.type.namespaceName → ¬ change.IsOfShortName change.property) := by
  intro session shortSession shortAnswer
  refine ⟨fun property hproperty => ?_, not_isOfShortName⟩
  have hshort : shortAnswer property =
      change.lead property (change.front ++ change.back) := by
    rw [show shortAnswer property = _ from answer_shortModel shortAsked, change.shortBindings]
    exact lead_of_not_fits (not_fits_short hproperty) _ _
  refine ⟨hshort.trans (answer_model asked change.without_container).symm, fun hfits => ?_⟩
  rw [answer_model asked change.source_container, change.bindings, lead_of_not_fits hfits]
  exact hshort

end Shortening

/-- Orders with a binding to a given path, for the approver of some of them, and one for all
approvers. -/
def vipOrders (path : String) : Declared.Container where
  name := "Main"
  entitySets := [
    { name := "Orders", entityType := "Sales.Order"
      bindings := [
        { path, target := "People" },
        { path := "Approver", target := "Managers" }] },
    { name := "People", entityType := "Sales.Person" },
    { name := "Managers", entityType := "Sales.Person" }]

/-- An order that is approved. -/
def vipOrder : Declared.StructuredType where
  name := "VipOrder"
  baseType := some "Sales.Order"
  navigationProperties := [{ name := "Approver", typeName := "Sales.Person" }]

/-- Orders, some of which are approved, in a namespace with a short name. -/
def vipSales (path : String) : Declared.Description where
  schemas := [{
    namespaceName := "Sales", shortName := some "S"
    entityTypes := [{ name := "Person" }, { name := "Order" }, vipOrder]
    containers := [vipOrders path] }]

/-- The short name in the binding for the approver. -/
def vipShortening : Shortening where
  description := vipSales "Sales.VipOrder/Approver"
  shortened := vipSales "S.VipOrder/Approver"
  alike := by decide +kernel
  container := ⟨3, "Sales", vipOrders "Sales.VipOrder/Approver"⟩
  source := ⟨3, .entitySet, 0, "Orders", "Sales.Order",
    [⟨"Sales.VipOrder/Approver", "People"⟩, ⟨"Approver", "Managers"⟩], true, {}⟩
  container_mem := by decide +kernel
  source_mem := by decide +kernel
  shortContainer := ⟨3, "Sales", vipOrders "S.VipOrder/Approver"⟩
  shortSource := ⟨3, .entitySet, 0, "Orders", "Sales.Order",
    [⟨"S.VipOrder/Approver", "People"⟩, ⟨"Approver", "Managers"⟩], true, {}⟩
  shortContainer_mem := by decide +kernel
  shortSource_mem := by decide +kernel
  source_alike := by decide +kernel
  type := ⟨2, "Sales", .entity, vipOrder⟩
  property := ⟨2, 0, { name := "Approver", typeName := "Sales.Person" }⟩
  short := "S"
  type_mem := by decide +kernel
  property_mem := by decide +kernel
  slash_notMem := by decide +kernel
  aliased := by decide +kernel
  front := []
  target := "People"
  back := [⟨"Approver", "Managers"⟩]
  bindings := by decide +kernel
  shortBindings := by decide +kernel

namespace Shortening

/-- With the short name the approver is one of all the managers, as without the binding. -/
theorem navigationTarget_shortened_approver :
    let change := vipShortening
    let session := Session.start change.model
    let shortSession := Session.start change.shortModel
    change.short ≠ change.type.namespaceName ∧ ¬ change.IsOfShortName change.property ∧
      (shortSession.answer (.navigationTarget (.declared change.shortSource) change.property)).map
          NavigationSource.unpathed =
        (session.answer (.navigationTarget (.declared change.without) change.property)).map
          NavigationSource.unpathed ∧
      (session.answer (.navigationTarget (.declared change.without) change.property)).map
          NavigationSource.name = some "Managers" := by
  intro change session shortSession
  obtain ⟨hanswers, hproperty⟩ := navigationTarget_shortened vipShortening [] []
  have hshort : change.short ≠ change.type.namespaceName := by decide +kernel
  exact ⟨hshort, hproperty hshort, (hanswers _ (hproperty hshort)).1, by decide +kernel⟩

/-- A short name for the namespace is not as good as the namespace. -/
theorem not_navigationTarget_shortened :
    ¬ ∀ (change : Shortening) (asked shortAsked : List Query) (property : NavigationProperty),
      ((((Session.start change.shortModel).after shortAsked).answer
        (.navigationTarget (.declared change.shortSource) property)).map
          NavigationSource.unpathed) =
      (((Session.start change.model).after asked).answer
        (.navigationTarget (.declared change.source) property)).map NavigationSource.unpathed := by
  intro h
  have hsame := h vipShortening [] [] vipShortening.property
  revert hsame
  decide +kernel

end Shortening
end ResourcePaths
