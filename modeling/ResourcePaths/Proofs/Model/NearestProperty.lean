import ResourcePaths.Proofs.Model.BaseChains

/-!
# The nearest property

A property is looked for in one list of all properties, from its end.  That is the same as going
along the chain of base types from the type on, and taking the last property of the name that the
first type with such a property declares.  Where case does not matter, the whole chain is gone along
for the exact name first: an exact match far away comes before a near one that differs in case.
-/

namespace ResourcePaths

/-! ### One type -/

namespace StructuredType

/-- A property is the last one that a type declares under a fitting name: the last navigation
property, or, where no navigation property has such a name, the last structural one. -/
inductive DeclaresLast (type : StructuredType) (fits : String → Prop) : Property → Prop
  | navigation {front back : List Declared.NavigationProperty}
      {decl : Declared.NavigationProperty}
      (hdecls : type.decl.navigationProperties = front ++ decl :: back) (hname : fits decl.name)
      (hlast : ∀ later ∈ back, ¬ fits later.name) :
      DeclaresLast type fits (.navigation ⟨type.id, front.length, decl⟩)
  | structural {front back : List Declared.Property} {decl : Declared.Property}
      (hnone : ∀ other ∈ type.decl.navigationProperties, ¬ fits other.name)
      (hdecls : type.decl.properties = front ++ decl :: back) (hname : fits decl.name)
      (hlast : ∀ later ∈ back, ¬ fits later.name) :
      DeclaresLast type fits (.structural ⟨type.id, front.length, decl⟩)

end StructuredType

namespace Property

section Numbered

variable {α : Type} (nameOf : α → String) {make : α × Nat → Property} {fits : String → Bool}
  {decls : List α}

/-- Where a list with a last item is cut, either this item is the one behind the cut, or it is the
last of those further behind. -/
theorem concat_eq_append_cons_iff {front back : List α} {decl last : α} :
    decls ++ [last] = front ++ decl :: back ↔
      (decls = front ∧ last = decl ∧ back = []) ∨
        ∃ others, decls = front ++ decl :: others ∧ back = others ++ [last] := by
  rcases List.eq_nil_or_concat' back with rfl | ⟨others, final, rfl⟩
  · rw [List.append_singleton_inj]
    simp
  · rw [← List.cons_append, ← List.append_assoc, List.append_singleton_inj]
    constructor
    · rintro ⟨rfl, rfl⟩
      exact .inr ⟨others, rfl, rfl⟩
    · rintro (⟨-, -, hnil⟩ | ⟨items, rfl, hconcat⟩)
      · simp at hnil
      · obtain ⟨rfl, rfl⟩ := List.append_singleton_inj.1 hconcat
        exact ⟨rfl, rfl⟩

theorem find?_numbered_eq_none_iff (hmake : ∀ item, (make item).name = nameOf item.1) :
    ((decls.zipIdx.map make).reverse.find? fun property => fits property.name) = none ↔
      ∀ decl ∈ decls, ¬ fits (nameOf decl) = true := by
  simp only [List.find?_eq_none, List.mem_reverse, List.forall_mem_map, hmake]
  constructor
  · intro h decl hmem
    obtain ⟨position, hposition⟩ := List.mem_iff_getElem?.1 hmem
    exact h (decl, position) (List.mem_zipIdx_iff_getElem?.2 hposition)
  · intro h item hmem
    exact h item.1 (List.fst_mem_of_mem_zipIdx hmem)

/-- Searching numbered declarations from their end finds the last one of a fitting name, with its
number. -/
theorem find?_numbered_eq_some_iff (hmake : ∀ item, (make item).name = nameOf item.1)
    {property : Property} :
    ((decls.zipIdx.map make).reverse.find? fun property => fits property.name) = some property ↔
      ∃ front decl back, decls = front ++ decl :: back ∧ fits (nameOf decl) = true ∧
        (∀ later ∈ back, ¬ fits (nameOf later) = true) ∧ property = make (decl, front.length) := by
  -- The search begins at the end of the declarations, and so does the induction.
  induction decls using List.reverseRecOn with
  | nil => simp
  | append_singleton decls last ih =>
      have hreverse : ((decls ++ [last]).zipIdx.map make).reverse =
          make (last, decls.length) :: (decls.zipIdx.map make).reverse := by
        simp [List.zipIdx_append]
      rw [hreverse]
      by_cases hlast : fits (nameOf last) = true
      · rw [List.find?_cons_of_pos (by rw [hmake]; exact hlast), Option.some.injEq]
        constructor
        · rintro rfl
          exact ⟨decls, last, [], rfl, hlast, List.forall_mem_nil _, rfl⟩
        · rintro ⟨front, decl, back, hsplit, -, hback, rfl⟩
          rcases concat_eq_append_cons_iff.1 hsplit with ⟨rfl, rfl, -⟩ | ⟨others, -, rfl⟩
          · rfl
          · exact absurd hlast (hback last (List.mem_append_right _ (List.mem_singleton_self _)))
      · rw [List.find?_cons_of_neg (by rw [hmake]; exact hlast), ih]
        constructor
        · rintro ⟨front, decl, back, rfl, hname, hback, rfl⟩
          refine ⟨front, decl, back ++ [last], by simp, hname, fun later hlater => ?_, rfl⟩
          rcases List.mem_append.1 hlater with hmem | hmem
          · exact hback later hmem
          · rwa [List.mem_singleton.1 hmem]
        · rintro ⟨front, decl, back, hsplit, hname, hback, rfl⟩
          rcases concat_eq_append_cons_iff.1 hsplit with ⟨-, rfl, -⟩ | ⟨others, rfl, rfl⟩
          · contradiction
          · exact ⟨front, decl, others, rfl, hname,
              fun later hlater => hback later (List.mem_append_left _ hlater), rfl⟩

end Numbered

end Property

namespace StructuredType

variable {type : StructuredType} {fits : String → Bool} {property : Property}

/-- Searching what a type declares from its end finds the last property of a fitting name. -/
theorem find?_declaredProperties_eq_some_iff :
    (type.declaredProperties.reverse.find? fun property => fits property.name) = some property ↔
      type.DeclaresLast (fun name => fits name = true) property := by
  rw [declaredProperties, List.reverse_append, List.find?_append, Option.or_eq_some_iff,
    Property.find?_numbered_eq_some_iff Declared.NavigationProperty.name fun _ => rfl,
    Property.find?_numbered_eq_none_iff Declared.NavigationProperty.name fun _ => rfl,
    Property.find?_numbered_eq_some_iff Declared.Property.name fun _ => rfl]
  constructor
  · rintro (⟨front, decl, back, hdecls, hname, hlast, rfl⟩ |
      ⟨hnone, front, decl, back, hdecls, hname, hlast, rfl⟩)
    · exact .navigation hdecls hname hlast
    · exact .structural hnone hdecls hname hlast
  · rintro (⟨hdecls, hname, hlast⟩ | ⟨hnone, hdecls, hname, hlast⟩)
    · exact .inl ⟨_, _, _, hdecls, hname, hlast, rfl⟩
    · exact .inr ⟨hnone, _, _, _, hdecls, hname, hlast, rfl⟩

end StructuredType

/-! ### The chain -/

/-- A property is the last one that the first type of a chain with a property of a fitting name
declares under such a name. -/
inductive Nearest (fits : String → Prop) : List StructuredType → Property → Prop
  | here {type : StructuredType} {others : List StructuredType} {property : Property}
      (hlast : type.DeclaresLast fits property) : Nearest fits (type :: others) property
  | behind {type : StructuredType} {others : List StructuredType} {property : Property}
      (hnone : ∀ own ∈ type.declaredProperties, ¬ fits own.name)
      (hothers : Nearest fits others property) : Nearest fits (type :: others) property

section Chain

variable {fits : String → Bool} {chain : List StructuredType} {property : Property}

/-- Searching the properties of a chain, the farthest first, from their end is going along the
chain. -/
theorem find?_chain_eq_some_iff :
    ((chain.reverse.flatMap StructuredType.declaredProperties).reverse.find? fun property =>
        fits property.name) = some property ↔
      Nearest (fun name => fits name = true) chain property := by
  induction chain with
  | nil =>
      constructor
      · intro h
        contradiction
      · rintro ⟨⟩
  | cons type others ih =>
      rw [List.reverse_cons, List.flatMap_append, List.flatMap_singleton, List.reverse_append,
        List.find?_append, Option.or_eq_some_iff,
        StructuredType.find?_declaredProperties_eq_some_iff, ih]
      have hnone : (type.declaredProperties.reverse.find? fun property => fits property.name) =
          none ↔ ∀ own ∈ type.declaredProperties, ¬ fits own.name = true := by
        simp only [List.find?_eq_none, List.mem_reverse]
      rw [hnone]
      constructor
      · rintro (hlast | ⟨hnone, hothers⟩)
        · exact .here hlast
        · exact .behind hnone hothers
      · rintro (hlast | ⟨hnone, hothers⟩)
        · exact .inl hlast
        · exact .inr ⟨hnone, hothers⟩

end Chain

namespace Model

variable {model : Model} {type : StructuredType} {name : String} {property : Property}

theorem forall_mem_properties_iff {holds : Property → Prop} :
    (∀ property ∈ model.properties type, holds property) ↔
      ∀ first ∈ type :: model.ancestors type, ∀ property ∈ first.declaredProperties,
        holds property := by
  simp only [properties_eq, List.mem_flatMap, List.mem_reverse]
  constructor
  · intro h first hfirst property hproperty
    exact h property ⟨first, hfirst, hproperty⟩
  · rintro h property ⟨first, hfirst, hproperty⟩
    exact h first hfirst property hproperty

/-- The last property of a fitting name among all of a type is the nearest one. -/
theorem find?_properties_eq_some_iff (fits : String → Bool) :
    ((model.properties type).reverse.find? fun property => fits property.name) = some property ↔
      Nearest (fun name => fits name = true) (type :: model.ancestors type) property := by
  rw [properties_eq]
  exact find?_chain_eq_some_iff

theorem find?_properties_eq_none_iff (fits : String → Bool) :
    ((model.properties type).reverse.find? fun property => fits property.name) = none ↔
      ∀ first ∈ type :: model.ancestors type, ∀ property ∈ first.declaredProperties,
        fits property.name = false := by
  rw [List.find?_eq_none, ← forall_mem_properties_iff]
  simp only [List.mem_reverse, Bool.not_eq_true]

/-- Looking a property up by its exact name finds the nearest one. -/
theorem findProperty?_exact_eq_some_iff :
    model.findProperty? type name false = some property ↔
      Nearest (· = name) (type :: model.ancestors type) property := by
  refine (find?_properties_eq_some_iff fun other => decide (other = name)).trans ?_
  simp only [decide_eq_true_eq]

theorem findProperty?_exact_eq_none_iff :
    model.findProperty? type name false = none ↔
      ∀ first ∈ type :: model.ancestors type, ∀ property ∈ first.declaredProperties,
        property.name ≠ name := by
  refine (find?_properties_eq_none_iff fun other => decide (other = name)).trans ?_
  simp only [decide_eq_false_iff_not, ne_eq]

/-- Where case does not matter, an exact match anywhere comes before all others. -/
theorem findProperty?_alike_eq :
    model.findProperty? type name true =
      (model.findProperty? type name false).or
        ((model.properties type).reverse.find? fun property => Text.alike property.name name) :=
  rfl

/-- Whatever has been asked before, looking a property up by its exact name finds the last one of
the name that the first type of the chain with such a property declares, and none only where no type
of the chain has one.  Looking it up without regard to case finds that one, too, where it is there,
and else the last one of a name that differs in case, on the first type of the chain with such a
property. -/
theorem findProperty?_nearest (description : Declared.Description) (asked : List Query)
    (type : StructuredType) (name : String) :
    let session := (Session.start (ofDescription description)).after asked
    let chain := type :: session.answer (.ancestors type)
    let found (ignoreCase : Bool) := session.answer (.property type name ignoreCase)
    (∀ property, found false = some property ↔ Nearest (· = name) chain property) ∧
    (found false = none ↔
      ∀ first ∈ chain, ∀ property ∈ first.declaredProperties, property.name ≠ name) ∧
    (∀ property, found true = some property ↔
      found false = some property ∨
        found false = none ∧ Nearest (fun other => Text.alike other name = true) chain property) ∧
    (found true = none ↔
      ∀ first ∈ chain, ∀ property ∈ first.declaredProperties,
        Text.alike property.name name = false) := by
  intro session chain found
  have hlive := Session.live_after (ofDescription description) asked
  have hchain : chain = type :: (ofDescription description).ancestors type := by
    show type :: session.answer (.ancestors type) = _
    rw [show session.answer (.ancestors type) = (ofDescription description).ancestors type from
      (Session.gives_ancestors type _ hlive).1]
  have hfound (ignoreCase : Bool) :
      found ignoreCase = (ofDescription description).findProperty? type name ignoreCase :=
    (Session.gives_findProperty? type name ignoreCase _ hlive).1
  rw [hchain, hfound false, hfound true]
  refine ⟨fun property => findProperty?_exact_eq_some_iff, findProperty?_exact_eq_none_iff,
    fun property => ?_, ?_⟩
  · rw [findProperty?_alike_eq, Option.or_eq_some_iff,
      find?_properties_eq_some_iff fun other => Text.alike other name]
  · rw [findProperty?_alike_eq, Option.or_eq_none_iff, findProperty?_exact_eq_none_iff,
      find?_properties_eq_none_iff fun other => Text.alike other name]
    constructor
    · exact And.right
    · intro h
      refine ⟨fun first hfirst property hproperty heq => ?_, h⟩
      -- A name that is the same is alike.
      have halike := h first hfirst property hproperty
      rw [heq, Text.alike, decide_eq_false_iff_not] at halike
      exact halike rfl

/-- Things with a name, and books, which are such things and have a name in small letters. -/
def namesakes : Declared.Description where
  schemas := [{
    namespaceName := "N"
    complexTypes := [
      { name := "Thing", properties := [{ name := "Name", typeName := "Edm.String" }] },
      { name := "Book", baseType := some "N.Thing"
        properties := [{ name := "name", typeName := "Edm.String" }] }] }]

-- The exact name comes first although it is the farther one; without an exact match the nearer one
-- does.
example :
    let model := ofDescription namesakes
    let book : StructuredType :=
      ⟨1, "N", .complex, { name := "Book", baseType := some "N.Thing"
                           properties := [{ name := "name", typeName := "Edm.String" }] }⟩
    (model.findProperty? book "Name" true).map Property.declaring = some 0 ∧
      (model.findProperty? book "NAME" true).map Property.declaring = some 1 := by
  decide +kernel

end Model
end ResourcePaths
