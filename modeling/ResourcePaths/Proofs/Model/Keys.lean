import ResourcePaths.Proofs.Model.Inheritance
import ResourcePaths.Proofs.Model.Validation

/-!
# Keys

The key of a type has the names that the nearest type declares, beginning with the type itself.  In
a model without problems each of these names is that of a structural property, so that the key has
one property for each name, in the same order.  The validation does not look at the names
themselves: a key without names passes, and so does one with a name that comes twice.
-/

namespace ResourcePaths
namespace Model

variable {model : Model}

/-- The names of the key that counts for a type: those that it declares itself, or else those that
count for its base type. -/
inductive KeyDeclared (model : Model) : StructuredType → List String → Prop
  | own {type : StructuredType} {names : List String} (hkey : type.decl.key = some names) :
      KeyDeclared model type names
  | inherited {type base : StructuredType} {names : List String} (hkey : type.decl.key = none)
      (hbase : model.baseStructured? type = some base) (hnames : KeyDeclared model base names) :
      KeyDeclared model type names

/-- An entity type of a model that is not abstract. -/
structure IsConcrete (model : Model) (type : StructuredType) : Prop where
  mem : .structured type ∈ model.elements
  entity : type.kind = .entity
  concrete : type.decl.isAbstract = false

/-! ### Names -/

/-- The first key on the way along base types is the one that counts for the type where the way
begins. -/
theorem keyDeclared_of_climb {unmet : List ElementId} {start : Option StructuredType}
    {names : List String}
    (h : ((model.climb unmet start).1.findSome? fun type => type.decl.key) = some names) :
    ∃ type, start = some type ∧ model.KeyDeclared type names := by
  fun_induction model.climb unmet start with
  | case1 => contradiction
  | case2 unmet type hunmet rest cyclic hrest ih =>
      refine ⟨type, rfl, ?_⟩
      rw [hrest] at ih
      rw [List.findSome?_cons] at h
      cases hkey : type.decl.key with
      | some own =>
          rw [hkey] at h
          obtain rfl := Option.some.inj h
          exact .own hkey
      | none =>
          rw [hkey] at h
          obtain ⟨base, hbase, hnames⟩ := ih h
          exact .inherited hkey hbase hnames
  | case3 => contradiction

theorem keyDeclared_of_keyNames? {type : StructuredType} {names : List String}
    (h : model.keyNames? type = some names) : model.KeyDeclared type names := by
  rw [keyNames?, StructuredType.gatherKeyNames] at h
  cases hkey : type.decl.key with
  | some own =>
      rw [hkey, Option.some_or] at h
      obtain rfl := Option.some.inj h
      exact .own hkey
  | none =>
      rw [hkey, Option.none_or] at h
      obtain ⟨base, hbase, hnames⟩ := keyDeclared_of_climb h
      exact .inherited hkey hbase hnames

/-! ### Properties -/

theorem name_of_find? {properties : List Property} {name : String} {property : Property}
    (h : Property.find? properties name false = some property) : property.name = name := by
  rw [Property.find?_eq_findNamed?] at h
  rcases (mem_of_findNamed? h).2 with hname | ⟨hcase, -⟩
  · exact hname
  · contradiction

/-- A selected property is the one that is found under its name. -/
theorem find?_of_mem_select {properties : List Property} {names : List String}
    {property : StructuralProperty} (h : property ∈ Property.select properties names) :
    Property.find? properties property.decl.name false = some (.structural property) := by
  obtain ⟨name, -, hbind⟩ := List.mem_filterMap.1 h
  obtain ⟨found, hfound, hkind⟩ := Option.bind_eq_some_iff.1 hbind
  cases found with
  | structural node =>
      obtain rfl := Option.some.inj hkind
      have hname : node.decl.name = name := name_of_find? hfound
      rw [hname]
      exact hfound
  | navigation node => contradiction

/-- Properties of a key that have the same name are the same. -/
theorem eq_of_mem_key {entity : StructuredType} {property other : StructuralProperty}
    (hproperty : property ∈ model.key entity) (hother : other ∈ model.key entity)
    (hname : property.decl.name = other.decl.name) : property = other := by
  have hfound := find?_of_mem_select hproperty
  rw [hname, find?_of_mem_select hother] at hfound
  exact (Property.structural.inj (Option.some.inj hfound)).symm

/-- Where each name is that of a structural property, there is one property for each name. -/
theorem select_of_found {properties : List Property} {names : List String}
    (h : ∀ name ∈ names, ∃ property,
      Property.find? properties name false = some (.structural property)) :
    (Property.select properties names).map (·.decl.name) = names ∧
      ∀ property ∈ Property.select properties names,
        Property.find? properties property.decl.name false = some (.structural property) := by
  refine ⟨?_, fun property hproperty => find?_of_mem_select hproperty⟩
  induction names with
  | nil => rfl
  | cons name rest ih =>
      obtain ⟨⟨property, hproperty⟩, hrest⟩ := List.forall_mem_cons.1 h
      have hname : property.decl.name = name := name_of_find? hproperty
      have hcons : Property.select properties (name :: rest) =
          property :: Property.select properties rest := by
        rw [Property.select, List.filterMap_cons, hproperty]
        rfl
      rw [hcons, List.map_cons, hname, ih hrest]

/-! ### Validation -/

theorem elementErrors_eq_nil (hclean : model.validate = []) {element : Element}
    (helement : element ∈ model.elements) : model.elementErrors element = [] := by
  rw [validate, List.append_eq_nil_iff, List.flatMap_eq_nil_iff] at hclean
  exact hclean.1 element helement

/-- An entity type without problems does not come again among its base types, and there is nothing
wrong with its key. -/
theorem keyErrors_eq_nil {type : StructuredType} (hclean : model.structuredErrors type = [])
    (hentity : type.kind = .entity) :
    type.keyErrors (model.properties type) (model.keyNames? type) = [] := by
  simp only [structuredErrors, StructuredType.gatherErrors, List.append_eq_nil_iff] at hclean
  obtain ⟨⟨⟨⟨_, hcyclic⟩, _⟩, _⟩, hkey⟩ := hclean
  cases hcircle : model.isCyclic type with
  | true =>
      rw [hcircle] at hcyclic
      contradiction
  | false =>
      rw [hcircle, hentity] at hkey
      exact hkey

/-- A key with which nothing is wrong has names, unless the type is abstract, and all of them are
those of structural properties. -/
theorem found_of_keyErrors {type : StructuredType} {properties : List Property}
    {keyNames : Option (List String)} (h : type.keyErrors properties keyNames = [])
    (hconcrete : type.decl.isAbstract = false) :
    ∃ names, keyNames = some names ∧ ∀ name ∈ names, ∃ property,
      Property.find? properties name false = some (.structural property) := by
  cases keyNames with
  | none =>
      rw [StructuredType.keyErrors, hconcrete] at h
      contradiction
  | some names =>
      refine ⟨names, rfl, fun name hname => ?_⟩
      rw [StructuredType.keyErrors, List.map_eq_nil_iff, List.filter_eq_nil_iff] at h
      have hfound := h name hname
      rw [Bool.not_eq_true, Option.isNone_eq_false_iff, Option.isSome_iff_exists] at hfound
      obtain ⟨property, hproperty⟩ := hfound
      obtain ⟨found, hfound, hkind⟩ := Option.bind_eq_some_iff.1 hproperty
      cases found with
      | structural node => exact ⟨node, hfound⟩
      | navigation node => contradiction

/-- In a model without problems the key of an entity type that is not abstract has one property for
each name that the nearest type declares, in the same order, and each is the property that the type
has under that name.  So the key has properties if names are declared, and exactly one for each name
if no name comes twice. -/
theorem key_of_validate_eq_nil (model : Model) (session other : Session)
    (hsession : Session.Live model session) (hother : Session.Live model other)
    (hclean : (Session.validate.run session).1 = []) (type : StructuredType)
    (htype : model.IsConcrete type) :
    ∃ names key, model.KeyDeclared type names ∧ ((Session.key type).run other).1 = key ∧
      key.map (·.decl.name) = names ∧
      (∀ property ∈ key,
        ((Session.findProperty? type property.decl.name).run other).1 =
          some (.structural property)) ∧
      (names ≠ [] → key ≠ []) ∧
      (names.Nodup → (key.map (·.decl.name)).Nodup ∧
        ∀ name ∈ names, key.countP (fun property => property.decl.name = name) = 1) := by
  rw [(Session.gives_validate session hsession).1] at hclean
  have herrors : model.structuredErrors type = [] := elementErrors_eq_nil hclean htype.mem
  obtain ⟨names, hnames, hfound⟩ :=
    found_of_keyErrors (keyErrors_eq_nil herrors htype.entity) htype.concrete
  have hkey : ((Session.key type).run other).1 =
      Property.select (model.properties type) names := by
    rw [(Session.gives_key type other hother).1, key, hnames]
    rfl
  obtain ⟨hselected, hown⟩ := select_of_found hfound
  refine ⟨names, _, keyDeclared_of_keyNames? hnames, hkey, hselected, ?_, ?_, ?_⟩
  · intro property hproperty
    rw [(Session.gives_findProperty? type _ false other hother).1]
    exact hown property hproperty
  · intro hne hempty
    rw [hempty] at hselected
    exact hne hselected.symm
  · intro hnodup
    rw [hselected]
    refine ⟨hnodup, fun name hname => ?_⟩
    have hcount := List.count_eq_one_of_mem hnodup hname
    rw [← hselected, List.count, List.countP_map] at hcount
    exact hcount

/-- An abstract type of things with a number, and a book, which is such a thing. -/
def numberedThings : Declared.Description where
  schemas := [{
    namespaceName := "N"
    entityTypes := [
      { name := "Thing", isAbstract := true, key := some ["Id"]
        properties := [{ name := "Id", typeName := "Edm.Int32" }] },
      { name := "Book", baseType := some "N.Thing"
        properties := [{ name := "Title", typeName := "Edm.String" }] }] }]

/-- A book has the number of things as its key. -/
theorem key_of_book :
    let model := ofDescription numberedThings
    let book : StructuredType :=
      ⟨1, "N", .entity, { name := "Book", baseType := some "N.Thing"
                          properties := [{ name := "Title", typeName := "Edm.String" }] }⟩
    (Session.validate.run (Session.start model)).1 = [] ∧ model.IsConcrete book ∧
      ∃ names key, model.KeyDeclared book names ∧
        ((Session.key book).run (Session.start model)).1 = key ∧
        key.map (·.decl.name) = names := by
  intro model book
  have hlive := Session.live_start model
  have hclean : (Session.validate.run (Session.start model)).1 = [] := by decide +kernel
  have hbook : model.IsConcrete book := ⟨by decide +kernel, rfl, rfl⟩
  obtain ⟨names, key, hdeclared, hkey, hnames, -⟩ :=
    key_of_validate_eq_nil model _ _ hlive hlive hclean book hbook
  exact ⟨hclean, hbook, names, key, hdeclared, hkey, hnames⟩

/-- A type with a key of no names, and one with a key that names a property twice. -/
def looseKeys : Declared.Description where
  schemas := [{
    namespaceName := "N"
    entityTypes := [
      { name := "Bare", key := some [] },
      { name := "Twice", key := some ["Id", "Id"]
        properties := [{ name := "Id", typeName := "Edm.Int32" }] }] }]

/-- The validation passes a key without properties, and a key that has a property twice. -/
theorem not_key_usable_of_validate_eq_nil :
    (¬ ∀ (model : Model) (type : StructuredType), model.validate = [] → model.IsConcrete type →
      model.key type ≠ []) ∧
    ¬ ∀ (model : Model) (type : StructuredType), model.validate = [] → model.IsConcrete type →
      ((model.key type).map (·.decl.name)).Nodup := by
  have hclean : (ofDescription looseKeys).validate = [] := by decide +kernel
  constructor
  · intro hall
    let bare : StructuredType := ⟨0, "N", .entity, { name := "Bare", key := some [] }⟩
    have hbare : (ofDescription looseKeys).IsConcrete bare := ⟨by decide +kernel, rfl, rfl⟩
    exact hall _ bare hclean hbare (by decide +kernel)
  · intro hall
    let twice : StructuredType :=
      ⟨1, "N", .entity, { name := "Twice", key := some ["Id", "Id"]
                          properties := [{ name := "Id", typeName := "Edm.Int32" }] }⟩
    have htwice : (ofDescription looseKeys).IsConcrete twice := ⟨by decide +kernel, rfl, rfl⟩
    have hnames : ((ofDescription looseKeys).key twice).map (·.decl.name) = ["Id", "Id"] := by
      decide +kernel
    have hnodup := hall _ twice hclean htwice
    rw [hnames] at hnodup
    exact absurd hnodup (by decide)

end Model
end ResourcePaths
