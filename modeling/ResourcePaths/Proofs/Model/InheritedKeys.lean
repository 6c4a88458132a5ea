import ResourcePaths.Proofs.Model.BaseChains
import ResourcePaths.Proofs.Model.Keys

/-!
# Inherited keys

A type without a key of its own takes the names of its key from the nearest ancestor that declares
one, and looks each of them up among its own properties.  The chain of an ancestor is part of the
chain of the type, also where the walk along base types is cut at a circle and the two chains begin
at different places of it.  So the properties of the ancestor are properties of the type; and where
no two of these have the same name, a name that leads somewhere on the ancestor leads to the same
property on the type.
-/

namespace ResourcePaths

/-- The first type of a chain that declares a key, and the names of this key. -/
inductive FirstKey : List StructuredType → StructuredType → List String → Prop
  | here {type : StructuredType} {others : List StructuredType} {names : List String}
      (hkey : type.decl.key = some names) : FirstKey (type :: others) type names
  | behind {type first : StructuredType} {others : List StructuredType} {names : List String}
      (hnone : type.decl.key = none) (hothers : FirstKey others first names) :
      FirstKey (type :: others) first names

namespace FirstKey

variable {chain : List StructuredType} {first : StructuredType} {names : List String}

theorem mem (h : FirstKey chain first names) : first ∈ chain := by
  induction h with
  | here => exact List.mem_cons_self
  | behind _ _ ih => exact List.mem_cons_of_mem _ ih

theorem key_eq (h : FirstKey chain first names) : first.decl.key = some names := by
  induction h with
  | here hkey => exact hkey
  | behind _ _ ih => exact ih

theorem findSome?_eq (h : FirstKey chain first names) :
    (chain.findSome? fun type => type.decl.key) = some names := by
  induction h with
  | here hkey => rw [List.findSome?_cons, hkey]
  | behind hnone _ ih => rw [List.findSome?_cons, hnone, ih]

end FirstKey

/-! ### Looking up among more properties -/

namespace Property

variable {part properties : List Property} {names : List String} {name : String}
  {property : Property}

/-- Where no two properties have the same name, what is found among some of them is found among
all of them. -/
theorem find?_of_subset (hpart : part ⊆ properties) (hnames : (properties.map Property.name).Nodup)
    (h : find? part name false = some property) : find? properties name false = some property := by
  have hmem : property ∈ properties := hpart (mem_of_find? h)
  cases hfound : find? properties name false with
  | none =>
      have hnone := findNamed?_eq_none_iff.1 ((find?_eq_findNamed? _ _ _).symm.trans hfound)
      exact absurd (.inl (Model.name_of_find? h)) (hnone property (List.mem_reverse.2 hmem))
  | some other =>
      have hname : other.name = property.name :=
        (Model.name_of_find? hfound).trans (Model.name_of_find? h).symm
      rw [List.inj_on_of_nodup_map hnames (mem_of_find? hfound) hmem hname]

theorem select_of_subset (hpart : part ⊆ properties)
    (hnames : (properties.map Property.name).Nodup)
    (hfound : ∀ name ∈ names, find? part name false ≠ none) :
    select properties names = select part names := by
  refine List.filterMap_congr fun name hname => ?_
  obtain ⟨property, hproperty⟩ := Option.ne_none_iff_exists'.1 (hfound name hname)
  rw [hproperty, find?_of_subset hpart hnames hproperty]

end Property

namespace Model

variable {model : Model} {type ancestor : StructuredType} {names : List String}

/-! ### The chain of an ancestor -/

/-- The chain of an ancestor is part of the chain of the type. -/
theorem chain_subset (hindexed : model.Indexed) (htype : .structured type ∈ model.elements)
    (h : ancestor ∈ model.ancestors type) :
    ancestor :: model.ancestors ancestor ⊆ type :: model.ancestors type := by
  have hreaches := (mem_ancestors_iff hindexed htype).1 (List.mem_cons_of_mem type h)
  intro other hother
  have hfurther := (mem_ancestors_iff hindexed (ancestors_mem h)).1 hother
  exact (mem_ancestors_iff hindexed htype).2 (hreaches.trans hfurther)

theorem properties_subset (hindexed : model.Indexed) (htype : .structured type ∈ model.elements)
    (h : ancestor ∈ model.ancestors type) : model.properties ancestor ⊆ model.properties type := by
  intro property hproperty
  rw [properties_eq, List.mem_flatMap] at hproperty ⊢
  obtain ⟨declaring, hdeclaring, hmem⟩ := hproperty
  have hchain := chain_subset hindexed htype h (List.mem_reverse.1 hdeclaring)
  exact ⟨declaring, List.mem_reverse.2 hchain, hmem⟩

/-! ### The key -/

/-- Each property of a name that came before is reported. -/
theorem nodup_names_of_structuredErrors
    (h : ∀ error ∈ model.structuredErrors type, error.code ≠ .duplicatePropertyName) :
    ((model.properties type).map Property.name).Nodup := by
  have hnone : repeatedBy Property.name [] (model.properties type) = [] := by
    refine List.eq_nil_iff_forall_not_mem.2 fun property hmem => ?_
    refine h ⟨property.location, .duplicateProperty property.name type.fullName⟩ ?_ rfl
    simp only [structuredErrors, StructuredType.gatherErrors, List.mem_append]
    exact .inl (.inl (.inr (List.mem_map_of_mem hmem)))
  exact (repeatedBy_eq_nil_iff.1 hnone).1

theorem key_eq_select (h : model.keyNames? type = some names) :
    model.key type = Property.select (model.properties type) names := by
  rw [key, h, Option.getD_some]

/-- The key of a type without a key of its own is that of the nearest ancestor with a key, where
each name of it leads to a property there. -/
theorem key_eq_of_firstKey (hindexed : model.Indexed) (htype : .structured type ∈ model.elements)
    (hown : type.decl.key = none) (hdistinct : ((model.properties type).map Property.name).Nodup)
    (hfirst : FirstKey (model.ancestors type) ancestor names)
    (hfound : ∀ name ∈ names, model.findProperty? ancestor name ≠ none) :
    model.key type = model.key ancestor := by
  have hnames : model.keyNames? type = some names := by
    rw [keyNames?, StructuredType.gatherKeyNames, hown, Option.none_or, hfirst.findSome?_eq]
  have hancestor : model.keyNames? ancestor = some names := by
    rw [keyNames?, StructuredType.gatherKeyNames, hfirst.key_eq, Option.some_or]
  rw [key_eq_select hnames, key_eq_select hancestor]
  exact Property.select_of_subset (properties_subset hindexed htype hfirst.mem) hdistinct hfound

theorem key_eq_nil (hown : type.decl.key = none)
    (h : ∀ ancestor ∈ model.ancestors type, ancestor.decl.key = none) : model.key type = [] := by
  have hnames : model.keyNames? type = none := by
    rw [keyNames?, StructuredType.gatherKeyNames, hown, Option.none_or]
    exact List.findSome?_eq_none_iff.2 h
  rw [key, hnames]
  rfl

/-- Whatever has been asked before, a type without a key of its own whose problems tell of no
property name that comes twice has the very key of the nearest ancestor that declares one, if that
ancestor has a property of each of the names; and its key is empty if no ancestor declares a key.
Base types may lead in a circle. -/
theorem key_inherited (description : Declared.Description) (asked : List Query)
    (type : StructuredType) (htype : .structured type ∈ (ofDescription description).elements)
    (hown : type.decl.key = none)
    (hdistinct : ∀ error ∈ ((Session.start (ofDescription description)).after asked).answer
      (.errorsOf (.element (.structured type))), error.code ≠ .duplicatePropertyName) :
    let session := (Session.start (ofDescription description)).after asked
    let ancestors := session.answer (.ancestors type)
    (∀ ancestor names, FirstKey ancestors ancestor names →
      (∀ name ∈ names, session.answer (.property ancestor name false) ≠ none) →
      session.answer (.key type) = session.answer (.key ancestor)) ∧
    ((∀ ancestor ∈ ancestors, ancestor.decl.key = none) → session.answer (.key type) = []) := by
  intro session ancestors
  have hindexed : (ofDescription description).Indexed := indexed_ofDescription description
  have hlive : Session.Live (ofDescription description) session := Session.live_after _ asked
  have hancestors : ancestors = (ofDescription description).ancestors type :=
    (Session.gives_ancestors type _ hlive).1
  have hkey (other : StructuredType) :
      session.answer (.key other) = (ofDescription description).key other :=
    (Session.gives_key other _ hlive).1
  have herrors : session.answer (.errorsOf (.element (.structured type))) =
      (ofDescription description).structuredErrors type :=
    (Session.gives_structuredErrors type _ hlive).1
  have hproperty (other : StructuredType) (name : String) :
      session.answer (.property other name false) =
        (ofDescription description).findProperty? other name :=
    (Session.gives_findProperty? other name false _ hlive).1
  have hnames : (((ofDescription description).properties type).map Property.name).Nodup :=
    nodup_names_of_structuredErrors (herrors ▸ hdistinct)
  rw [hancestors]
  refine ⟨fun ancestor names hfirst hfound => ?_, fun hnone => ?_⟩
  · simp only [hproperty] at hfound
    rw [hkey, hkey]
    exact key_eq_of_firstKey hindexed htype hown hnames hfirst hfound
  · rw [hkey]
    exact key_eq_nil hown hnone

/-- Two types that are each other's base type, one with the property that the key of the other one
names, and a type outside the circle. -/
def keyedWhirl : Declared.Description where
  schemas := [{
    namespaceName := "N"
    entityTypes := [
      { name := "Left", baseType := some "N.Right"
        properties := [{ name := "Id", typeName := "Edm.Int32" }] },
      { name := "Right", baseType := some "N.Left", key := some ["Id"] },
      { name := "Outer", baseType := some "N.Left"
        properties := [{ name := "Mark", typeName := "Edm.Int32" }] }] }]

/-- The nearest key is declared behind the type that declares its property, so that the ancestor
finds the property only by going round the circle. -/
theorem key_inherited_outer :
    let left : StructuredType :=
      ⟨0, "N", .entity, { name := "Left", baseType := some "N.Right"
                          properties := [{ name := "Id", typeName := "Edm.Int32" }] }⟩
    let right : StructuredType :=
      ⟨1, "N", .entity, { name := "Right", baseType := some "N.Left", key := some ["Id"] }⟩
    let outer : StructuredType :=
      ⟨2, "N", .entity, { name := "Outer", baseType := some "N.Left"
                          properties := [{ name := "Mark", typeName := "Edm.Int32" }] }⟩
    let session := (Session.start (ofDescription keyedWhirl)).after [.validation]
    (∀ error ∈ session.answer (.errorsOf (.element (.structured outer))),
        error.code ≠ .duplicatePropertyName) ∧
      session.answer (.ancestors outer) = [left, right] ∧
      session.answer (.ancestors right) = [left] ∧
      session.answer (.key outer) = session.answer (.key right) ∧
      session.answer (.key right) = [⟨0, 0, { name := "Id", typeName := "Edm.Int32" }⟩] := by
  intro left right outer session
  have houter : .structured outer ∈ (ofDescription keyedWhirl).elements := by decide +kernel
  have hdistinct : ∀ error ∈ session.answer (.errorsOf (.element (.structured outer))),
      error.code ≠ .duplicatePropertyName := by decide +kernel
  have hancestors : session.answer (.ancestors outer) = [left, right] := by decide +kernel
  have hfirst : FirstKey (session.answer (.ancestors outer)) right ["Id"] := by
    rw [hancestors]
    exact .behind rfl (.here rfl)
  have hfound : ∀ name ∈ ["Id"], session.answer (.property right name false) ≠ none := by
    decide +kernel
  have hinherited := (key_inherited keyedWhirl [.validation] outer houter rfl hdistinct).1 right
    ["Id"] hfirst hfound
  exact ⟨hdistinct, hancestors, by decide +kernel, hinherited, by decide +kernel⟩

end Model
end ResourcePaths
