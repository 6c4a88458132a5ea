import ResourcePaths.Proofs.Model.FullNames
import ResourcePaths.Proofs.Model.IndexOrder

/-!
# The names of placeholders

A placeholder keeps the name that led nowhere as a namespace and a simple name.  Put together again
these are the name itself, with one exception: an empty namespace is written without a dot, so that
a dot is lost which stands in front of everything else and is the only one.  No name of a model is
lost in this way, as a namespace and a simple name are always found again in the qualified name that
they make.
-/

namespace ResourcePaths
namespace Name

/-- A text without its first character, if that is a dot and the only one; any other text as it
is. -/
def withoutOnlyDot (text : String) : String :=
  match text.toList with
  | '.' :: rest => if '.' ∈ rest then text else String.ofList rest
  | _ => text

theorem withoutOnlyDot_of_only {text : String} {rest : List Char} (htext : text.toList = '.' :: rest)
    (h : '.' ∉ rest) : withoutOnlyDot text = String.ofList rest := by
  rw [withoutOnlyDot, htext]
  exact if_neg h

theorem withoutOnlyDot_of_more {text : String} {c : Char} {rest : List Char}
    (htext : text.toList = c :: rest) (h : c ≠ '.' ∨ '.' ∈ rest) : withoutOnlyDot text = text := by
  unfold withoutOnlyDot
  split
  · rename_i found hfound
    obtain ⟨rfl, rfl⟩ := List.cons_eq_cons.1 (htext.symm.trans hfound)
    exact if_pos (h.resolve_left (not_not_intro rfl))
  · rfl

/-- Nothing is lost of a text, unless its only dot is its first character. -/
theorem withoutOnlyDot_eq_self_iff (text : String) :
    withoutOnlyDot text = text ↔ ¬ ∃ rest : String, '.' ∉ rest.toList ∧ text = "." ++ rest := by
  constructor
  · rintro hself ⟨rest, hdot, rfl⟩
    rw [withoutOnlyDot_of_only (by simp) hdot] at hself
    have hlength := congrArg String.length hself
    simp at hlength
  · intro hnone
    cases htext : text.toList with
    | nil => rw [withoutOnlyDot, htext]
    | cons c rest =>
        refine withoutOnlyDot_of_more htext ?_
        by_contra hboth
        rw [not_or, not_not] at hboth
        obtain ⟨rfl, hdot⟩ := hboth
        refine hnone ⟨String.ofList rest, by rwa [String.toList_ofList], ?_⟩
        rw [← String.toList_inj, htext]
        simp

/-- Cut at its last dot and put together again, a text is what it was, but for an only dot in front
of it. -/
theorem qualify_split (text : String) :
    qualify (split text).1 (split text).2 = withoutOnlyDot text := by
  obtain ⟨front, simple, hparts⟩ := exists_parts text
  rw [split_eq_iff.2 hparts]
  cases hparts with
  | plain hdot =>
      have hself : withoutOnlyDot text = text := by
        rw [withoutOnlyDot_eq_self_iff]
        rintro ⟨rest, -, rfl⟩
        exact hdot (by simp)
      rw [hself]
      rfl
  | dotted hdot =>
      show qualify front simple = withoutOnlyDot (front ++ "." ++ simple)
      unfold qualify
      split
      · rename_i hempty
        rw [String.isEmpty_iff.1 hempty, withoutOnlyDot_of_only (by simp) hdot,
          String.ofList_toList]
      · rename_i hfilled
        have hne : front.toList ≠ [] := by simpa using hfilled
        obtain ⟨c, rest, hfront⟩ := List.exists_cons_of_ne_nil hne
        -- The last dot is behind the first character, so the first one is not the only one.
        have hmore : '.' ∈ rest ++ '.' :: simple.toList :=
          List.mem_append_right _ List.mem_cons_self
        have htext : (front ++ "." ++ simple).toList = c :: (rest ++ '.' :: simple.toList) := by
          simp [hfront]
        exact (withoutOnlyDot_of_more htext (.inr hmore)).symm

end Name

/-! ### Placeholders -/

/-- What the name of a type says below its layers of collections, without the blanks at its ends. -/
def Name.innermost (name : String) : String :=
  String.ofList (Text.trim (peel name.toList).2)

theorem Name.innermost_of_not_collection {name : String} (h : isCollection name = false) :
    innermost name = Text.trimmed name := by
  have hitem : itemName? name.toList = none := by
    simpa [isCollection, collectionItem?] using h
  rw [innermost, peel_of_not_collection hitem, Text.trimmed]

theorem Placeholder.fullName_ofName (name : String) (kind : ElementKind)
    (errors : List ModelError) :
    (Placeholder.ofName name kind errors).fullName = Name.withoutOnlyDot name :=
  Name.qualify_split name

namespace Model

variable {model : Model} {placeholder : Placeholder}

theorem fullName_of_resolveNamed {name : String} {location : Declared.Location}
    (h : ((model.resolveNamed name location).value.follow (some model)).placeholder? =
      some placeholder) : placeholder.fullName = Name.withoutOnlyDot name := by
  unfold resolveNamed at h
  split at h
  · contradiction
  · split at h
    · contradiction
    · split at h
      · rename_i id hid
        -- The number of a type leads to the type.
        obtain ⟨element, helement, htype⟩ :=
          isType_of_mem_typeIdsOf (hid ▸ List.mem_singleton_self id)
        change (TypeReference.ofElement (model.element? id)).placeholder? = some placeholder at h
        rw [helement, TypeReference.ofElement_of_isType htype] at h
        contradiction
      · obtain rfl := Option.some.inj h
        exact Placeholder.fullName_ofName ..
      · obtain rfl := Option.some.inj h
        exact Placeholder.fullName_ofName ..

/-- The placeholder below the layers of a type keeps what the name says below its layers. -/
theorem fullName_of_placeholder? {text : String}
    (h : (model.resolveType text).placeholder? = some placeholder) :
    placeholder.fullName = Name.withoutOnlyDot (Name.innermost text) := by
  simp only [resolveType, resolve, Resolved.map, TypeReference.follow_wrap] at h
  exact fullName_of_resolveNamed h

/-- No collection is a placeholder, so such a text has no layers. -/
theorem fullName_of_resolveType {text : String} (h : model.resolveType text = .bad placeholder) :
    placeholder.fullName = Name.withoutOnlyDot (Text.trimmed text) := by
  have hplain : Name.isCollection text = false := by
    rw [← Bool.not_eq_true]
    intro hcollection
    obtain ⟨item, hitem⟩ : ∃ item, model.resolveType text = .collection item :=
      resolveType_of_isCollection hcollection
    rw [hitem] at h
    contradiction
  rw [← Name.innermost_of_not_collection hplain]
  exact fullName_of_placeholder? (congrArg ModelType.placeholder? h)

/-- A placeholder for a structured type keeps the whole name that was asked for, with its blanks and
layers. -/
theorem fullName_of_resolveStructured {text : String} {kind : StructuredKind}
    {location : Declared.Location} {use : StructuredUse}
    (h : (model.resolveStructured text kind location use).value = .bad placeholder) :
    placeholder.fullName = Name.withoutOnlyDot text := by
  simp only [resolveStructured] at h
  split at h
  · rename_i id hid
    split at h
    · split at h
      · rw [hid] at h
        contradiction
      · obtain rfl := TypeReference.bad.inj h
        exact Placeholder.fullName_ofName ..
    · obtain rfl := TypeReference.bad.inj h
      exact Placeholder.fullName_ofName ..
  · obtain rfl := TypeReference.bad.inj h
    exact Placeholder.fullName_ofName ..
  · obtain rfl := TypeReference.bad.inj h
    exact Placeholder.fullName_ofName ..

/-- Cut at its last dot and put together again, a text is as before, unless its only dot is its first
character, which is then lost; and a placeholder keeps just as much of the name that it stands for,
also where a text leads to it in a model.  A qualified name is cut into the parts that it was made
of. -/
theorem placeholder_keeps_name (description : Declared.Description) :
    let model := ofDescription description
    (∀ text, Name.withoutOnlyDot text = text ↔
      ¬ ∃ rest : String, '.' ∉ rest.toList ∧ text = "." ++ rest) ∧
    (∀ rest : String, '.' ∉ rest.toList → Name.withoutOnlyDot ("." ++ rest) = rest) ∧
    (∀ text, Name.qualify (Name.split text).1 (Name.split text).2 = Name.withoutOnlyDot text) ∧
    (∀ text kind errors,
      (Placeholder.ofName text kind errors).fullName = Name.withoutOnlyDot text) ∧
    (∀ namespaceName name : String, '.' ∉ name.toList →
      Name.split (Name.qualify namespaceName name) = (namespaceName, name)) ∧
    (∀ text placeholder, model.resolveType text = .bad placeholder →
      placeholder.fullName = Name.withoutOnlyDot (Text.trimmed text)) ∧
    (∀ text placeholder, (model.resolveType text).placeholder? = some placeholder →
      placeholder.fullName = Name.withoutOnlyDot (Name.innermost text)) ∧
    ∀ text kind location use placeholder,
      (model.resolveStructured text kind location use).value = .bad placeholder →
        placeholder.fullName = Name.withoutOnlyDot text := by
  intro model
  refine ⟨Name.withoutOnlyDot_eq_self_iff, ?_, Name.qualify_split, Placeholder.fullName_ofName,
    ?_, ?_, ?_, ?_⟩
  · intro rest hdot
    rw [Name.withoutOnlyDot_of_only (by simp) hdot, String.ofList_toList]
  · intro namespaceName name hdot
    exact Name.split_qualify namespaceName hdot
  · intro text placeholder h
    exact fullName_of_resolveType h
  · intro text placeholder h
    exact fullName_of_placeholder? h
  · intro text kind location use placeholder h
    exact fullName_of_resolveStructured h

/-- A type in a namespace with a short name. -/
def stock : Declared.Description where
  schemas := [{
    namespaceName := "Sales.Stock", shortName := some "S", complexTypes := [{ name := "Item" }] }]

/-- Types that the stock does not have: under a name with many dots, below a layer, and under a name
of which the dot is lost; and a collection where a single item was asked for. -/
theorem placeholder_keeps_name_stock :
    let model := ofDescription stock
    Name.split (Name.qualify "Sales.Stock" "Item") = ("Sales.Stock", "Item") ∧
      (∃ placeholder, model.resolveType " .S..Items. " = .bad placeholder ∧
        placeholder.fullName = ".S..Items.") ∧
      (∃ placeholder, (model.resolveType "Collection( S.Items )").placeholder? = some placeholder ∧
        placeholder.fullName = "S.Items") ∧
      (∃ placeholder, model.resolveType ".Item" = .bad placeholder ∧
        placeholder.fullName = "Item") ∧
      ∃ placeholder, (model.resolveStructured "Collection(S.Item)" .complex {} .plain).value =
        .bad placeholder ∧ placeholder.fullName = "Collection(S.Item)" := by
  intro model
  obtain ⟨-, honly, -, -, hsplit, htype, hbelow, hstructured⟩ := placeholder_keeps_name stock
  let unknown (name : String) : Placeholder :=
    .ofName name .typeDefinition [⟨{}, .unresolvedType name⟩]
  have hdotted : model.resolveType " .S..Items. " = .bad (unknown ".S..Items.") := by
    decide +kernel
  have hlayer : (model.resolveType "Collection( S.Items )").placeholder? =
      some (unknown "S.Items") := by
    decide +kernel
  have hlost : model.resolveType ".Item" = .bad (unknown ".Item") := by decide +kernel
  have hasked : (model.resolveStructured "Collection(S.Item)" .complex {} .plain).value =
      .bad (.ofName "Collection(S.Item)" .complexType
        [⟨{}, .notStructured "Collection(S.Item)" .plain⟩]) := by
    decide +kernel
  refine ⟨hsplit _ _ (by decide), ⟨_, hdotted, ?_⟩, ⟨_, hlayer, ?_⟩, ⟨_, hlost, ?_⟩,
    ⟨_, hasked, ?_⟩⟩
  · exact (htype _ _ hdotted).trans (by decide +kernel)
  · exact (hbelow _ _ hlayer).trans (by decide +kernel)
  · exact (htype _ _ hlost).trans (honly "Item" (by decide))
  · exact (hstructured _ _ _ _ _ hasked).trans (by decide +kernel)

/-- A dot in front of a simple name is lost: when the name is cut and put together again, in a
placeholder under it, and in the one that it leads to. -/
theorem not_placeholder_keeps_name :
    (¬ ∀ text, Name.qualify (Name.split text).1 (Name.split text).2 = text) ∧
    (¬ ∀ text kind errors, (Placeholder.ofName text kind errors).fullName = text) ∧
    ¬ ∀ text placeholder, Text.trimmed text = text →
      (ofDescription stock).resolveType text = .bad placeholder → placeholder.fullName = text := by
  refine ⟨fun hall => ?_, fun hall => ?_, fun hall => ?_⟩
  · exact absurd (hall ".Item") (by decide +kernel)
  · exact absurd (hall ".Item" .typeDefinition []) (by decide +kernel)
  · have hlost : (ofDescription stock).resolveType ".Item" =
        .bad (.ofName ".Item" .typeDefinition [⟨{}, .unresolvedType ".Item"⟩]) := by
      decide +kernel
    exact absurd (hall ".Item" _ (by decide +kernel) hlost) (by decide +kernel)

end Model
end ResourcePaths
