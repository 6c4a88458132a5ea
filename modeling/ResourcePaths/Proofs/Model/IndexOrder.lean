import ResourcePaths.Proofs.Model.Naming

/-!
# The order of the index

The groups of an index stand in no particular order, and a look-up does not show the one they have:
whatever the order, a name finds the elements that going through all of them finds, in the order of
the declarations.  The name is written out in full for this, with the namespace of the last schema
that gives itself the short name in front.
-/

namespace ResourcePaths

/-! ### Names in full -/

namespace Name

/-- A name has a namespace in front of its last dot and a simple name behind it; without a dot, the
namespace is empty. -/
inductive Parts : String → String → String → Prop
  | dotted {namespaceName simple : String} (hsimple : '.' ∉ simple.toList) :
      Parts (namespaceName ++ "." ++ simple) namespaceName simple
  | plain {simple : String} (hsimple : '.' ∉ simple.toList) : Parts simple "" simple

/-- Splitting a name gives its parts. -/
theorem split_eq_iff {name front simple : String} :
    split name = (front, simple) ↔ Parts name front simple := by
  constructor
  · intro h
    rw [split] at h
    split at h
    · rename_i before behind hcut
      obtain ⟨rfl, rfl⟩ := Prod.mk.inj h
      obtain ⟨-, hbehind⟩ := Text.cutLast?_eq_some_iff.1 hcut
      have hname : name = String.ofList before ++ "." ++ String.ofList behind :=
        Text.eq_join_of_cutLast? rfl hcut
      rw [hname]
      exact .dotted (by rwa [String.toList_ofList])
    · rename_i hcut
      obtain ⟨rfl, rfl⟩ := Prod.mk.inj h
      exact .plain (Text.cutLast?_eq_none_iff.1 hcut)
  · rintro (hsimple | hsimple)
    · exact split_join front hsimple
    · exact split_of_notMem hsimple

theorem exists_parts (name : String) : ∃ front simple, Parts name front simple :=
  ⟨_, _, split_eq_iff.1 rfl⟩

end Name

namespace Declared.Description

/-- A name in full: the namespace of the last schema whose short name stands in front of the simple
name takes its place, and a name with no short name in front is in full as it is. -/
inductive Expands (description : Description) : String → String → Prop
  | short {name front simple : String} {earlier later : List Schema} {schema : Schema}
      (hname : Name.Parts name front simple)
      (hschemas : description.schemas = earlier ++ schema :: later)
      (hshort : schema.shortName = some front)
      (hlater : ∀ other ∈ later, other.shortName ≠ some front) :
      Expands description name (Name.qualify schema.namespaceName simple)
  | plain {name front simple : String} (hname : Name.Parts name front simple)
      (hnone : ∀ schema ∈ description.schemas, schema.shortName ≠ some front) :
      Expands description name name

end Declared.Description

namespace Model

section Aliases

variable {description : Declared.Description} {short namespaceName : String}

/-- The short names are gone through from the last schema on. -/
theorem aliased?_eq_findSome? (description : Declared.Description) (short : String) :
    (ofDescription description).aliased? short =
      description.schemas.reverse.findSome? fun schema =>
        if schema.shortName = some short then some schema.namespaceName else none := by
  have hentry (schema : Declared.Schema) :
      ((schema.shortName.map fun short => (short, schema.namespaceName)).bind fun entry =>
          if short == entry.1 then some entry.2 else none) =
        if schema.shortName = some short then some schema.namespaceName else none := by
    cases hshort : schema.shortName with
    | none => rfl
    | some found =>
        show (if short == found then some schema.namespaceName else none) = _
        simp only [beq_iff_eq, Option.some.injEq, @eq_comm _ found]
  rw [aliased?, List.lookup_eq_findSome?]
  show (description.schemas.filterMap fun schema => schema.shortName.map fun short =>
    (short, schema.namespaceName)).reverse.findSome? _ = _
  rw [← List.head?_filterMap, ← List.head?_filterMap, ← List.filterMap_reverse,
    List.filterMap_filterMap]
  exact congrArg (fun entryOf => (description.schemas.reverse.filterMap entryOf).head?)
    (funext hentry)

/-- Of several schemas with one short name, the last one counts. -/
theorem aliased?_eq_some_iff :
    (ofDescription description).aliased? short = some namespaceName ↔
      ∃ earlier schema later, description.schemas = earlier ++ schema :: later ∧
        schema.shortName = some short ∧ schema.namespaceName = namespaceName ∧
        ∀ other ∈ later, other.shortName ≠ some short := by
  rw [aliased?_eq_findSome?, List.findSome?_eq_some_iff]
  simp only [Option.ite_none_right_eq_some, Option.some.injEq, ite_eq_right_iff, reduceCtorEq,
    imp_false]
  constructor
  · rintro ⟨later, schema, earlier, hschemas, ⟨hshort, rfl⟩, hlater⟩
    refine ⟨earlier.reverse, schema, later.reverse, ?_, hshort, rfl,
      fun other hother => hlater other (List.mem_reverse.1 hother)⟩
    rw [List.reverse_eq_iff] at hschemas
    rw [hschemas]
    simp
  · rintro ⟨earlier, schema, later, hschemas, hshort, rfl, hlater⟩
    refine ⟨later.reverse, schema, earlier.reverse, ?_, ⟨hshort, rfl⟩,
      fun other hother => hlater other (List.mem_reverse.1 hother)⟩
    rw [hschemas]
    simp

theorem aliased?_eq_none_iff :
    (ofDescription description).aliased? short = none ↔
      ∀ schema ∈ description.schemas, schema.shortName ≠ some short := by
  rw [aliased?_eq_findSome?, List.findSome?_eq_none_iff]
  simp

theorem normalize_of_aliased {model : Model} {name front simple namespaceName : String}
    (hname : Name.Parts name front simple) (h : model.aliased? front = some namespaceName) :
    model.normalize name = Name.qualify namespaceName simple := by
  simp only [normalize, Name.split_eq_iff.2 hname, h]

theorem normalize_of_not_aliased {model : Model} {name front simple : String}
    (hname : Name.Parts name front simple) (h : model.aliased? front = none) :
    model.normalize name = name := by
  simp only [normalize, Name.split_eq_iff.2 hname, h]

/-- Normalizing a name writes it out in full, and a name has no other full form. -/
theorem expands_iff {name full : String} :
    description.Expands name full ↔ full = (ofDescription description).normalize name := by
  constructor
  · rintro (⟨hname, hschemas, hshort, hlater⟩ | ⟨hname, hnone⟩)
    · have haliased := aliased?_eq_some_iff.2 ⟨_, _, _, hschemas, hshort, rfl, hlater⟩
      exact (normalize_of_aliased hname haliased).symm
    · exact (normalize_of_not_aliased hname (aliased?_eq_none_iff.2 hnone)).symm
  · rintro rfl
    obtain ⟨front, simple, hname⟩ := Name.exists_parts name
    cases haliased : (ofDescription description).aliased? front with
    | none =>
        rw [normalize_of_not_aliased hname haliased]
        exact .plain hname (aliased?_eq_none_iff.1 haliased)
    | some namespaceName =>
        rw [normalize_of_aliased hname haliased]
        obtain ⟨earlier, schema, later, hschemas, hshort, rfl, hlater⟩ :=
          aliased?_eq_some_iff.1 haliased
        exact .short hname hschemas hshort hlater

end Aliases

end Model

/-! ### Indexes that differ in their order -/

namespace NameIndex

variable {index other : NameIndex}

theorem mem_insert_map_fst {name found : String} {id : ElementId} :
    found ∈ (insert name id index).map (·.1) ↔ found = name ∨ found ∈ index.map (·.1) := by
  induction index with
  | nil => simp [insert]
  | cons group rest ih =>
      rw [insert]
      split
      · rename_i hgroup
        subst hgroup
        simp
      · rw [List.map_cons, List.map_cons, List.mem_cons, List.mem_cons, ih, or_left_comm]

theorem nodup_insert (h : (index.map (·.1)).Nodup) (name : String) (id : ElementId) :
    ((insert name id index).map (·.1)).Nodup := by
  induction index with
  | nil => exact List.nodup_singleton name
  | cons group rest ih =>
      obtain ⟨hgroup, hrest⟩ := List.nodup_cons.1 h
      rw [insert]
      split
      · exact h
      · rename_i hne
        refine List.nodup_cons.2 ⟨fun hmem => ?_, ih hrest⟩
        rcases mem_insert_map_fst.1 hmem with heq | hmem
        · exact hne heq
        · exact hgroup hmem

/-- No two groups of an index have the same name. -/
theorem nodup_ofElements (elements : List Element) : ((ofElements elements).map (·.1)).Nodup := by
  have hfold (index : NameIndex) (h : (index.map (·.1)).Nodup) :
      ((elements.foldl (fun index element => index.insert element.fullName element.id) index).map
        (·.1)).Nodup := by
    induction elements generalizing index with
    | nil => exact h
    | cons element rest ih => exact ih _ (nodup_insert h element.fullName element.id)
  exact hfold [] List.nodup_nil

/-- Where the names of the groups differ, a group is found under its name. -/
theorem find?_eq_some_iff (h : (index.map (·.1)).Nodup) {name : String} {ids : List ElementId} :
    index.find? name = some ids ↔ (name, ids) ∈ index := by
  induction index with
  | nil => simp [find?]
  | cons group rest ih =>
      obtain ⟨found, others⟩ := group
      obtain ⟨hfound, hrest⟩ := List.nodup_cons.1 h
      specialize ih hrest
      simp only [find?] at ih ⊢
      by_cases hname : name = found
      · subst hname
        have hnotMem : (name, ids) ∉ rest := fun hmem =>
          hfound (List.mem_map.2 ⟨_, hmem, rfl⟩)
        simp [hnotMem, eq_comm]
      · have hbeq : (name == found) = false := by simpa using hname
        simp [List.lookup_cons, hbeq, hname, ih]

/-- The order of the groups does not matter to an exact match. -/
theorem find?_of_perm (hperm : index.Perm other) (h : (other.map (·.1)).Nodup) (name : String) :
    index.find? name = other.find? name := by
  have hindex : (index.map (·.1)).Nodup := (hperm.map _).nodup_iff.2 h
  refine Option.ext fun ids => ?_
  rw [find?_eq_some_iff hindex, find?_eq_some_iff h, hperm.mem_iff]

/-- The order of the groups does not matter to matches that differ in case, as their numbers are put
in order. -/
theorem alike_of_perm (hperm : index.Perm other) (name : String) :
    index.alike name = other.alike name := by
  have hentries : (entries index).Perm (entries other) := hperm.flatMap_right _
  have hsame := (alike_perm index name).trans
    (((hentries.filter _).map _).trans (alike_perm other name).symm)
  exact hsame.eq_of_pairwise (fun a b _ _ => Nat.le_antisymm) (pairwise_alike index name)
    (pairwise_alike other name)

end NameIndex

namespace Model

/-- Looking a name up does not depend on the order of the index. -/
theorem find_of_perm {model : Model} (hmodel : model.Indexed) {index : NameIndex}
    (hindex : index.Perm model.index) (name : String) (ignoreCase : Bool) :
    { model with index := index }.find name ignoreCase = model.find name ignoreCase := by
  have hnodup : (model.index.map (·.1)).Nodup := by
    rw [hmodel.index_eq]
    exact NameIndex.nodup_ofElements model.elements
  have hids : { model with index := index }.idsOf name ignoreCase =
      model.idsOf name ignoreCase := by
    have hnormalize : { model with index := index }.normalize = model.normalize := rfl
    simp only [idsOf, hnormalize, NameIndex.find?_of_perm hindex hnodup,
      NameIndex.alike_of_perm hindex]
  rw [find, hids]
  rfl

/-- Whatever order the groups of the index have, looking a name up goes through all elements in the
order of their declarations.  It finds those whose name is the name looked up, trimmed and written
out in full; without one, and where case does not matter, it finds those whose name differs from it
in case.  The operations, the term and the container of a name are taken from the exact matches. -/
theorem find_eq_scan (description : Declared.Description) {index : NameIndex}
    (hindex : index.Perm (ofDescription description).index) (name : String) :
    let model : Model := { ofDescription description with index := index }
    ∃ full, (∀ other, description.Expands (Text.trimmed name) other ↔ other = full) ∧
      let named := model.elements.filter fun element => element.fullName = full
      model.find name false = named ∧
      model.find name true =
        (if named = [] then model.elements.filter fun element => Text.alike element.fullName full
          else named) ∧
      model.findOperations name = named.filterMap Element.operation? ∧
      model.findTerm? name = (named.filterMap Element.term?).head? ∧
      model.findContainer? name = (named.filterMap Element.container?).head? := by
  intro model
  have hindexed := indexed_ofDescription description
  refine ⟨(ofDescription description).normalize (Text.trimmed name), fun other => expands_iff, ?_⟩
  intro named
  have hfind (ignoreCase : Bool) : model.find name ignoreCase =
      (ofDescription description).matching
        ((ofDescription description).normalize (Text.trimmed name)) ignoreCase :=
    (find_of_perm hindexed hindex name ignoreCase).trans (hindexed.find_eq_matching name ignoreCase)
  have hexact : model.find name false = named := by
    rw [hfind, matching_exactly]
  refine ⟨hexact, ?_, ?_, ?_, ?_⟩
  · rw [hfind, matching_ignoringCase]
  · rw [findOperations, hexact]
  · rw [findTerm?, hexact, List.head?_filterMap]
  · rw [findContainer?, hexact, List.head?_filterMap]

/-- Two namespaces with one short name; in the later one, names differ in their case, and an action
and a function share one. -/
def totals : Declared.Description where
  schemas := [
    { namespaceName := "Old", shortName := some "S", complexTypes := [{ name := "Total" }] },
    { namespaceName := "New", shortName := some "S"
      actions := [{ name := "Total" }, { name := "total" }]
      functions := [{ name := "Total" }] }]

/-- With the groups of its index turned round, the model finds all totals of the later namespace, in
the order of their declarations. -/
theorem find_eq_scan_turned :
    let turned := (ofDescription totals).index.reverse
    let model : Model := { ofDescription totals with index := turned }
    turned.Perm (ofDescription totals).index ∧
      totals.Expands (Text.trimmed " S.TOTAL") "New.TOTAL" ∧
      model.find " S.TOTAL" false = [] ∧
      (model.find " S.TOTAL" true).map Element.id = [1, 2, 3] := by
  intro turned model
  have hturned : turned.Perm (ofDescription totals).index := List.reverse_perm _
  have hexpands : totals.Expands (Text.trimmed " S.TOTAL") "New.TOTAL" := by
    have hname : Text.trimmed " S.TOTAL" = "S" ++ "." ++ "TOTAL" := by decide +kernel
    rw [hname]
    exact .short (.dotted (by decide)) (show totals.schemas = [_] ++ _ :: [] from rfl) rfl
      (List.forall_mem_nil _)
  obtain ⟨full, hfull, hexact, halike, -⟩ := find_eq_scan totals hturned " S.TOTAL"
  obtain rfl := (hfull _).1 hexpands
  have hnone : (model.elements.filter fun element => element.fullName = "New.TOTAL") = [] := by
    decide +kernel
  refine ⟨hturned, hexpands, hexact.trans hnone, ?_⟩
  rw [halike, if_pos hnone]
  decide +kernel

end Model
end ResourcePaths
