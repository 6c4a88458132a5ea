import ResourcePaths.Proofs.Model.Bindings
import ResourcePaths.Proofs.Model.Keys

/-!
# Where the path of a binding ends

The path of a binding goes from the entities of a source over casts and complex values to a
navigation property.  Whether it fits a property is told from its text: from its last part and, where
what stands in front is qualified, from the name of the declaring type.  Behind a cast, a path that
fits ends at the property itself.  Without one, it ends at some property of that name.
-/

namespace ResourcePaths
namespace Model

/-! ### Following a path -/

/-- The type behind a part of a path: the one that a cast names, or that of the complex values of a
property. -/
def typeBehind? (model : Model) (type : StructuredType) (part : String) : Option StructuredType :=
  if Text.mentions part '.' then
    (model.resolveType part).structured?.filter fun target =>
      model.isAssignable (.structured type) (.structured target)
  else
    ((model.findProperty? type part).bind Property.structural?).bind fun property =>
      (model.typeOf (.structural property)).itemType.structured?.filter fun target =>
        target.kind = .complex

/-- The navigation property at the end of a path. -/
def pathEnd? (model : Model) (type : StructuredType) : List String → Option NavigationProperty
  | [] => none
  | [name] => (model.findProperty? type name).bind Property.navigation?
  | part :: next :: rest =>
    (model.typeBehind? type part).bind fun target => model.pathEnd? target (next :: rest)

/-- The navigation property at the end of the path of a binding. -/
def bindingEnd? (model : Model) (type : StructuredType) (path : String) :
    Option NavigationProperty :=
  model.pathEnd? type (Text.pieces '/' path)

variable {model : Model} {type : StructuredType} {property found : NavigationProperty}
  {path name : String}

/-- The last part of a path is the name of the property at its end. -/
theorem getLast?_of_pathEnd? {parts : List String} (h : model.pathEnd? type parts = some found) :
    parts.getLast? = some found.decl.name := by
  induction parts generalizing type with
  | nil => contradiction
  | cons part rest ih =>
      cases rest with
      | nil =>
          obtain ⟨property, hfound, hnavigation⟩ := Option.bind_eq_some_iff.1 h
          cases property with
          | structural node => contradiction
          | navigation node =>
              obtain rfl := Option.some.inj hnavigation
              exact congrArg some (name_of_find? hfound).symm
      | cons next rest =>
          obtain ⟨target, -, hrest⟩ := Option.bind_eq_some_iff.1 h
          rw [List.getLast?_cons_cons]
          exact ih hrest

/-! ### Paths that fit a property -/

/-- A path that fits a property: its name, or its name behind something that is the name of the
declaring type if it is qualified. -/
inductive FitsPath (model : Model) (property : NavigationProperty) : String → Prop
  | alone (hslash : '/' ∉ property.decl.name.toList) : FitsPath model property property.decl.name
  | behind {front : String} {type : StructuredType} (hslash : '/' ∉ property.decl.name.toList)
      (hdeclaring : model.structured? property.declaring = some type)
      (hcast : '.' ∈ front.toList → type.fullName = front) :
      FitsPath model property (front ++ "/" ++ property.decl.name)

theorem FitsPath.slash_notMem (h : model.FitsPath property path) :
    '/' ∉ property.decl.name.toList := by
  cases h <;> assumption

theorem cutLast?_behind (front : String) (hslash : '/' ∉ name.toList) :
    Text.cutLast? '/' (front ++ "/" ++ name).toList = some (front.toList, name.toList) :=
  Text.cutLast?_join rfl front hslash

theorem pieces_behind (front : String) (hslash : '/' ∉ name.toList) :
    Text.pieces '/' (front ++ "/" ++ name) = Text.pieces '/' front ++ [name] :=
  Text.pieces_append front hslash

theorem contains_imp_iff {front : List Char} {c : Char} {holds : Prop} [Decidable holds] :
    (!front.contains c || decide holds) = true ↔ (c ∈ front → holds) := by
  simp [imp_iff_not_or]

theorem bindingFits_iff :
    bindingFits (some model) path property = true ↔ model.FitsPath property path := by
  constructor
  · intro h
    rw [bindingFits] at h
    split at h
    · rename_i hcut
      obtain rfl := of_decide_eq_true h
      exact .alone (Text.cutLast?_eq_none_iff.1 hcut)
    · rename_i front back hcut
      obtain ⟨-, hslash⟩ := Text.cutLast?_eq_some_iff.1 hcut
      rw [Bool.and_eq_true, decide_eq_true_eq] at h
      obtain ⟨hname, hcast⟩ := h
      split at hcast
      · rename_i type hdeclaring
        have hpath : path = String.ofList front ++ "/" ++ String.ofList back :=
          Text.eq_join_of_cutLast? rfl hcut
        rw [hpath, hname]
        refine .behind (by simpa [← hname] using hslash) hdeclaring fun hdot => ?_
        exact contains_imp_iff.1 hcast (by simpa using hdot)
      · contradiction
  · rintro (hslash | @⟨front, type, hslash, hdeclaring, hcast⟩)
    · rw [bindingFits, Text.cutLast?_eq_none_iff.2 hslash]
      exact decide_eq_true rfl
    · rw [bindingFits, cutLast?_behind front hslash]
      simp only [String.ofList_toList, decide_true, Bool.true_and, Option.bind_some, hdeclaring]
      exact contains_imp_iff.2 hcast

/-- Behind something qualified a path fits the properties of its last part that a type of just that
name declares. -/
theorem FitsPath.of_cast {front : String} (h : model.FitsPath property (front ++ "/" ++ name))
    (hslash : '/' ∉ name.toList) (hdot : '.' ∈ front.toList) :
    property.decl.name = name ∧
      ∃ declaring, model.structured? property.declaring = some declaring ∧
        declaring.fullName = front := by
  -- However the path fits, it is cut in one place.
  have hcut := cutLast?_behind front hslash
  generalize front ++ "/" ++ name = path at h hcut
  cases h with
  | alone hnone =>
      rw [Text.cutLast?_eq_none_iff.2 hnone] at hcut
      contradiction
  | @behind other type hname hdeclaring hcast =>
      rw [cutLast?_behind other hname] at hcut
      obtain ⟨hfront, hlast⟩ := Prod.mk.inj (Option.some.inj hcut)
      obtain rfl := String.toList_inj.1 hfront
      exact ⟨String.toList_inj.1 hlast, type, hdeclaring, hcast hdot⟩

/-! ### Ends of paths that fit -/

theorem getLast?_pieces (h : model.FitsPath property path) :
    (Text.pieces '/' path).getLast? = some property.decl.name := by
  cases h with
  | alone hslash => rw [Text.pieces_of_notMem hslash, List.getLast?_singleton]
  | behind hslash hdeclaring hcast => rw [pieces_behind _ hslash, List.getLast?_concat]

/-- A path that fits a property ends at one of its name. -/
theorem FitsPath.name_eq (h : model.FitsPath property path)
    (hend : model.bindingEnd? type path = some found) : found.decl.name = property.decl.name := by
  have hlast := getLast?_of_pathEnd? hend
  rw [getLast?_pieces h] at hlast
  exact (Option.some.inj hlast).symm

/-- A path without a slash ends at what the type has under that name. -/
theorem bindingEnd?_alone (hslash : '/' ∉ name.toList) :
    model.bindingEnd? type name =
      (model.findProperty? type name).bind Property.navigation? := by
  rw [bindingEnd?, Text.pieces_of_notMem hslash, pathEnd?]

end Model

/-- A property that its declaring type has under its name, where that type is what its qualified
name leads to. -/
structure NavigationProperty.IsFoundIn (model : Model) (property : NavigationProperty)
    (type : StructuredType) : Prop where
  declaring : model.structured? property.declaring = some type
  type_found : model.resolveType type.fullName = .structured type
  slash_notMem : '/' ∉ type.fullName.toList
  found : model.findProperty? type property.decl.name = some (.navigation property)

/-- Whether something qualified stands in front of the last slash of a path. -/
def Declared.Binding.HasCast (binding : Declared.Binding) : Prop :=
  ∃ front name, binding.path = front ++ "/" ++ name ∧ '/' ∉ name.toList ∧ '.' ∈ front.toList

namespace Model

variable {model : Model} {type declaring : StructuredType} {property found : NavigationProperty}

/-- Behind a cast to its declaring type a path ends at the property, if the cast is possible. -/
theorem bindingEnd?_cast (h : property.IsFoundIn model declaring)
    (hdot : '.' ∈ declaring.fullName.toList) (hslash : '/' ∉ property.decl.name.toList) :
    model.bindingEnd? type (declaring.fullName ++ "/" ++ property.decl.name) =
      if model.isAssignable (.structured type) (.structured declaring) then some property
      else none := by
  have hmentions : Text.mentions declaring.fullName '.' = true := List.contains_iff_mem.2 hdot
  rw [bindingEnd?, pieces_behind _ hslash, Text.pieces_of_notMem h.slash_notMem,
    List.singleton_append, pathEnd?, typeBehind?, if_pos hmentions, h.type_found,
    ModelType.structured?, Option.filter_some]
  split
  · rw [Option.bind_some, pathEnd?, h.found]
    rfl
  · rfl

/-! ### The binding that an answer comes from -/

/-- Whatever has been asked before, where a source leads from a property comes from the first
binding that fits and leads somewhere.  Followed from a type, and so from that of the entities of the
source, its path ends at a property of that name, if anywhere: without a slash at the one that the
type has, and behind a cast at the property itself, if the cast is possible. -/
theorem navigationTarget_end (description : Declared.Description) (asked : List Query)
    {container : Container} {source : DeclaredSource}
    (hcontainer : .container container ∈ (ofDescription description).elements)
    (hsource : source ∈ container.entitySets ++ container.singletons)
    (entity : StructuredType) {property : NavigationProperty} {found : NavigationSource}
    (hfound : ((Session.start (ofDescription description)).after asked).answer
      (.navigationTarget (.declared source) property) = some found) :
    let model := ofDescription description
    let leads := model.Binds (Container.IsWritten model) container property
    ∃ binding target, found = .declared target ∧
      IsFirst (fun other => ∃ target, leads other target) source.bindings binding ∧
      leads binding target ∧
      (∀ other, model.bindingEnd? entity binding.path = some other →
        other.decl.name = property.decl.name) ∧
      (binding.path = property.decl.name → model.bindingEnd? entity binding.path =
        (model.findProperty? entity property.decl.name).bind Property.navigation?) ∧
      ∀ declaring, property.IsFoundIn model declaring → binding.HasCast →
        model.bindingEnd? entity binding.path =
          if model.isAssignable (.structured entity) (.structured declaring) then some property
          else none := by
  intro model leads
  rw [answer_navigationTarget] at hfound
  obtain ⟨binding, target, rfl, hfirst, hleads⟩ :=
    ((indexed_ofDescription description).navigationTarget?_eq_some_iff hcontainer
      (container_of_mem_sources hsource)).1 hfound
  have hfits := bindingFits_iff.1 hleads.fits
  refine ⟨binding, target, rfl, hfirst, hleads, fun other hend => hfits.name_eq hend, ?_, ?_⟩
  · intro hpath
    rw [hpath]
    exact bindingEnd?_alone hfits.slash_notMem
  · intro declaring hdeclaring hcast
    -- What stands in front of the last slash is the name of the declaring type.
    obtain ⟨front, name, hpath, hslash, hdot⟩ := hcast
    rw [hpath] at hfits ⊢
    obtain ⟨rfl, other, hother, rfl⟩ := hfits.of_cast hslash hdot
    obtain rfl := Option.some.inj (hother.symm.trans hdeclaring.declaring)
    exact bindingEnd?_cast hdeclaring hdot hslash

/-- Orders of two kinds with approvers, and a binding for each of them. -/
def approvedOrders : Declared.Container where
  name := "Main"
  entitySets := [
    { name := "Orders", entityType := "Sales.Order"
      bindings := [
        { path := "Sales.BulkOrder/Approver", target := "Managers" },
        { path := "Sales.VipOrder/Approver", target := "People" }] },
    { name := "People", entityType := "Sales.Person" },
    { name := "Managers", entityType := "Sales.Person" }]

/-- Orders, of which two kinds have an approver. -/
def approval : Declared.Description where
  schemas := [{
    namespaceName := "Sales"
    entityTypes := [
      { name := "Person" },
      { name := "Order" },
      { name := "VipOrder", baseType := some "Sales.Order"
        navigationProperties := [{ name := "Approver", typeName := "Sales.Person" }] },
      { name := "BulkOrder", baseType := some "Sales.Order"
        navigationProperties := [{ name := "Approver", typeName := "Sales.Person" }] }]
    containers := [approvedOrders] }]

/-- The approver of an order of one kind does not come from the binding for the other kind, and the
path of the binding that it comes from ends at the property. -/
theorem navigationTarget_end_approver :
    let model := ofDescription approval
    let session := Session.start model
    let container : Container := ⟨4, "Sales", approvedOrders⟩
    let entity : StructuredType := ⟨1, "Sales", .entity, { name := "Order" }⟩
    let property : NavigationProperty :=
      ⟨2, 0, { name := "Approver", typeName := "Sales.Person" }⟩
    .container container ∈ model.elements ∧
      ∃ source target, source ∈ container.entitySets ∧
        session.answer (.sourceEntity (.declared source)) = some entity ∧
        session.answer (.navigationTarget (.declared source) property) = some (.declared target) ∧
        target.name = "People" ∧
        ∃ binding ∈ source.bindings,
          model.Binds (Container.IsWritten model) container property binding target ∧
          model.bindingEnd? entity binding.path = some property := by
  intro model session container entity property
  have hcontainer : .container container ∈ model.elements := by decide +kernel
  let source : DeclaredSource :=
    ⟨4, .entitySet, 0, "Orders", "Sales.Order",
      [⟨"Sales.BulkOrder/Approver", "Managers"⟩, ⟨"Sales.VipOrder/Approver", "People"⟩], true, {}⟩
  let target : DeclaredSource := ⟨4, .entitySet, 1, "People", "Sales.Person", [], true, {}⟩
  have hsource : source ∈ container.entitySets := by decide +kernel
  have hentity : session.answer (.sourceEntity (.declared source)) = some entity := by
    decide +kernel
  have hanswer : session.answer (.navigationTarget (.declared source) property) =
      some (.declared target) := by decide +kernel
  have hcasts : ∀ binding ∈ source.bindings, binding.HasCast :=
    List.forall_mem_cons.2 ⟨⟨"Sales.BulkOrder", "Approver", by decide +kernel⟩,
      List.forall_mem_singleton.2 ⟨"Sales.VipOrder", "Approver", by decide +kernel⟩⟩
  let declaring : StructuredType := ⟨2, "Sales", .entity, {
    name := "VipOrder", baseType := some "Sales.Order"
    navigationProperties := [{ name := "Approver", typeName := "Sales.Person" }] }⟩
  have hdeclaring : property.IsFoundIn model declaring :=
    ⟨by decide +kernel, by decide +kernel, by decide +kernel, by decide +kernel⟩
  obtain ⟨binding, _, heq, hfirst, hbinds, -, -, hend⟩ :=
    navigationTarget_end approval [] hcontainer (List.mem_append_left _ hsource) entity hanswer
  obtain rfl := NavigationSource.declared.inj heq
  obtain ⟨front, back, hbindings, -⟩ := hfirst
  have hmem : binding ∈ source.bindings := by
    rw [hbindings]
    exact List.mem_append_right _ List.mem_cons_self
  refine ⟨hcontainer, source, target, hsource, hentity, hanswer, rfl, binding, hmem, hbinds, ?_⟩
  rw [hend declaring hdeclaring (hcasts binding hmem), if_pos (by decide +kernel)]

/-- Orders whose owner has a namesake in their address, and a binding for the namesake. -/
def ownedOrders : Declared.Container where
  name := "Main"
  entitySets := [
    { name := "Orders", entityType := "Sales.Order"
      bindings := [{ path := "Address/Owner", target := "People" }] },
    { name := "People", entityType := "Sales.Person" }]

/-- Orders and addresses, both with an owner. -/
def ownership : Declared.Description where
  schemas := [{
    namespaceName := "Sales"
    entityTypes := [
      { name := "Person" },
      { name := "Order", properties := [{ name := "Address", typeName := "Sales.Address" }]
        navigationProperties := [{ name := "Owner", typeName := "Sales.Person" }] }]
    complexTypes := [
      { name := "Address"
        navigationProperties := [{ name := "Owner", typeName := "Sales.Person" }] }]
    containers := [ownedOrders] }]

/-- A path need not end at the property: the owner of an order comes from the binding for the owner
of its address. -/
theorem not_navigationTarget_end :
    ¬ ∀ (description : Declared.Description) (asked : List Query) (container : Container)
      (source : DeclaredSource), .container container ∈ (ofDescription description).elements →
      source ∈ container.entitySets ++ container.singletons →
      ∀ (entity : StructuredType) (property : NavigationProperty) (found : NavigationSource),
      let model := ofDescription description
      let session := (Session.start model).after asked
      session.answer (.sourceEntity (.declared source)) = some entity →
      session.answer (.navigationTarget (.declared source) property) = some found →
      ∃ binding ∈ source.bindings, ∃ target, found = .declared target ∧
        model.Binds (Container.IsWritten model) container property binding target ∧
        model.bindingEnd? entity binding.path = some property := by
  intro h
  let container : Container := ⟨3, "Sales", ownedOrders⟩
  let source : DeclaredSource :=
    ⟨3, .entitySet, 0, "Orders", "Sales.Order", [⟨"Address/Owner", "People"⟩], true, {}⟩
  let entity : StructuredType := ⟨1, "Sales", .entity, {
    name := "Order", properties := [{ name := "Address", typeName := "Sales.Address" }]
    navigationProperties := [{ name := "Owner", typeName := "Sales.Person" }] }⟩
  let target : DeclaredSource := ⟨3, .entitySet, 1, "People", "Sales.Person", [], true, {}⟩
  obtain ⟨binding, hmem, -, -, -, hend⟩ :=
    h ownership [] container source (by decide +kernel) (by decide +kernel) entity
      ⟨1, 0, { name := "Owner", typeName := "Sales.Person" }⟩ (.declared target)
      (by decide +kernel) (by decide +kernel)
  obtain rfl := List.mem_singleton.1 hmem
  revert hend
  decide +kernel

end Model
end ResourcePaths
