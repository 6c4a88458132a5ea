import ResourcePaths.Binding.Render
import ResourcePaths.Proofs.Binding.Steps
import ResourcePaths.Proofs.Model.Inheritance

/-!
# Keys written again

A key is written with the declared names of its properties, or without a name where there is only
one value.  Read again it gives the same values.
-/

namespace ResourcePaths
namespace KeyValue

/-- The values of a token that write a key. -/
def asValues : List KeyValue → List NamedValue
  | [value] => [⟨none, value.text⟩]
  | values => values.map fun value => ⟨some value.name, value.text⟩

theorem renderAll_eq {values : List KeyValue} (hne : values ≠ []) :
    renderAll values = Token.renderValues (asValues values) := by
  match values with
  | [] => contradiction
  | [value] => rfl
  | first :: second :: others =>
      rw [renderAll, asValues, Token.renderValues, if_neg (by simp), List.map_map]
      · rfl
      · simp
      · simp

@[simp]
theorem length_asValues (values : List KeyValue) : (asValues values).length = values.length := by
  match values with
  | [] => rfl
  | [value] => rfl
  | first :: second :: others => simp [asValues]

theorem mem_asValues {values : List KeyValue} {value : NamedValue} (h : value ∈ asValues values) :
    ∃ own ∈ values, value.value = own.text ∧ ∀ name ∈ value.name, name = own.name := by
  match values with
  | [] => contradiction
  | [own] =>
      obtain rfl := List.mem_singleton.1 h
      exact ⟨own, List.mem_singleton_self own, rfl, by simp⟩
  | first :: second :: others =>
      obtain ⟨own, hown, rfl⟩ := List.mem_map.1 h
      refine ⟨own, hown, rfl, fun name hname => ?_⟩
      exact (Option.some.inj hname).symm

end KeyValue

namespace Model

variable {model : Model} {ignoreCase : Bool} {entity : StructuredType}
  {key : List StructuralProperty}

/-- A value belongs to a key property, and one with the name of that property does, too. -/
theorem keyProperty_own {value : NamedValue} {property : StructuralProperty}
    (h : keyProperty ignoreCase entity key value = .ok property) (text : String) :
    property ∈ key ∧
      keyProperty ignoreCase entity key ⟨some property.decl.name, text⟩ = .ok property := by
  obtain ⟨name, written⟩ := value
  cases name with
  | none =>
      cases key with
      | nil => contradiction
      | cons first others =>
          obtain rfl := Except.ok.inj h
          refine ⟨List.mem_cons_self, ?_⟩
          have hhead : findNamed? (fun property : StructuralProperty => property.decl.name)
              (first :: others) first.decl.name ignoreCase = some first :=
            findNamed?_head first others
          simp only [keyProperty, hhead]
  | some name =>
      simp only [keyProperty] at h
      split at h
      · rename_i found hfound
        obtain rfl := Except.ok.inj h
        refine ⟨(mem_of_findNamed? hfound).1, ?_⟩
        have := findNamed?_own hfound
        simp only [keyProperty]
        rw [this]
      · contradiction

theorem keyValue_eq_ok_iff {seen : List String} {property : StructuralProperty}
    {value : NamedValue} {found : KeyValue} :
    model.keyValue ignoreCase seen property value = .ok found ↔
      property.decl.name ∉ seen ∧ ∃ literal, Literal.ofText? value.value = some literal ∧
        model.fits ignoreCase (model.typeOf (.structural property)) literal = true ∧
        found = ⟨property.decl.name, literal, value.value⟩ := by
  simp only [keyValue]
  split
  · rename_i hseen
    simp only [reduceCtorEq, false_iff, not_and]
    intro hnot
    exact absurd (List.contains_iff_mem.1 hseen) hnot
  · rename_i hseen
    have hnot : property.decl.name ∉ seen := fun hmem => hseen (List.contains_iff_mem.2 hmem)
    split
    · rename_i hliteral
      simp [hliteral]
    · rename_i literal hliteral
      split
      · rename_i hfits
        simp only [hnot, hliteral, not_false_eq_true, true_and, Option.some.injEq, exists_eq_left',
          hfits, Except.ok.injEq]
        exact eq_comm
      · rename_i hfits
        simp [hliteral, hfits]

/-- A value gives that of the key property which it belongs to. -/
inductive GivesKey (model : Model) (ignoreCase : Bool) (entity : StructuredType)
    (key : List StructuralProperty) : NamedValue → KeyValue → Prop
  | intro {value : NamedValue} {property : StructuralProperty} {literal : Literal}
      (hproperty : keyProperty ignoreCase entity key value = .ok property)
      (hliteral : Literal.ofText? value.value = some literal)
      (hfits : model.fits ignoreCase (model.typeOf (.structural property)) literal = true) :
      GivesKey model ignoreCase entity key value ⟨property.decl.name, literal, value.value⟩

/-- The walk over the values keeps apart the names that it has seen: it succeeds exactly if each
value gives that of a key property, and no property comes twice. -/
theorem keyValues_eq_ok_iff_givesKey {seen : List String} {values : List NamedValue}
    {found : List KeyValue} :
    model.keyValues ignoreCase entity key seen values = .ok found ↔
      List.Forall₂ (model.GivesKey ignoreCase entity key) values found ∧
        (found.map (·.name)).Nodup ∧ ∀ own ∈ found, own.name ∉ seen := by
  induction values generalizing seen found with
  | nil =>
      constructor
      · intro h
        obtain rfl := Except.ok.inj h
        exact ⟨.nil, List.nodup_nil, List.forall_mem_nil _⟩
      · rintro ⟨hgives, -⟩
        obtain rfl := List.forall₂_nil_left_iff.1 hgives
        rfl
  | cons value rest ih =>
      simp only [keyValues, Outcome.bind_eq_ok_iff, ih]
      constructor
      · rintro ⟨property, hproperty, own, hown, others, ⟨hgives, hnodup, hunseen⟩, heq⟩
        obtain rfl := Except.ok.inj heq
        obtain ⟨hfirst, literal, hliteral, hfits, rfl⟩ := keyValue_eq_ok_iff.1 hown
        have hnew : property.decl.name ∉ others.map (·.name) := by
          intro hmem
          obtain ⟨other, hother, hname⟩ := List.mem_map.1 hmem
          exact hunseen other hother (List.mem_cons.2 (.inl hname))
        refine ⟨.cons (.intro hproperty hliteral hfits) hgives,
          List.nodup_cons.2 ⟨hnew, hnodup⟩, List.forall_mem_cons.2 ⟨hfirst, ?_⟩⟩
        exact fun other hother hmem => hunseen other hother (List.mem_cons_of_mem _ hmem)
      · rintro ⟨_ | ⟨⟨hproperty, hliteral, hfits⟩, hgives⟩, hnodup, hunseen⟩
        obtain ⟨hnew, hothers⟩ := List.nodup_cons.1 hnodup
        obtain ⟨hfirst, hunseen⟩ := List.forall_mem_cons.1 hunseen
        refine ⟨_, hproperty, _, keyValue_eq_ok_iff.2 ⟨hfirst, _, hliteral, hfits, rfl⟩,
          _, ⟨hgives, hothers, fun other hother hmem => ?_⟩, rfl⟩
        rcases List.mem_cons.1 hmem with hname | hmem
        · exact hnew (List.mem_map.2 ⟨other, hother, hname⟩)
        · exact hunseen other hother hmem

/-- The values of key properties, each under the name of its property, give the same again. -/
theorem keyValues_own {seen : List String} {values : List NamedValue} {found : List KeyValue}
    (h : model.keyValues ignoreCase entity key seen values = .ok found) :
    found.length = values.length ∧
      model.keyValues ignoreCase entity key seen
        (found.map fun value => ⟨some value.name, value.text⟩) = .ok found ∧
      ∀ value ∈ found, (∃ property ∈ key, value.name = property.decl.name) ∧
        ∃ written ∈ values, value.text = written.value := by
  induction values generalizing seen found with
  | nil =>
      obtain rfl := Except.ok.inj h
      exact ⟨rfl, rfl, by simp⟩
  | cons value rest ih =>
      simp only [keyValues, Outcome.bind_eq_ok_iff] at h
      obtain ⟨property, hproperty, first, hfirst, others, hothers, heq⟩ := h
      obtain rfl := Except.ok.inj heq
      obtain ⟨hlength, hagain, hfrom⟩ := ih hothers
      obtain ⟨hseen, literal, hliteral, hfits, rfl⟩ := keyValue_eq_ok_iff.1 hfirst
      obtain ⟨hkey, hown⟩ := keyProperty_own hproperty value.value
      refine ⟨by simp [hlength], ?_, ?_⟩
      · rw [List.map_cons, keyValues, Outcome.bind_eq_ok_iff]
        have hvalue : model.keyValue ignoreCase seen property
            ⟨some property.decl.name, value.value⟩ =
              .ok ⟨property.decl.name, literal, value.value⟩ :=
          keyValue_eq_ok_iff.2 ⟨hseen, literal, hliteral, hfits, rfl⟩
        refine ⟨property, hown, Outcome.bind_eq_ok_iff.2 ⟨_, hvalue, ?_⟩⟩
        exact Outcome.bind_eq_ok_iff.2 ⟨others, hagain, rfl⟩
      · refine List.forall_mem_cons.2 ⟨?_, fun other hother => ?_⟩
        · exact ⟨⟨property, hkey, rfl⟩, value, List.mem_cons_self, rfl⟩
        · obtain ⟨hname, written, hwritten, htext⟩ := hfrom other hother
          exact ⟨hname, written, List.mem_cons_of_mem _ hwritten, htext⟩

/-- The value of the only key property needs no name. -/
theorem keyValues_unnamed {seen : List String} {name text : String} {found : List KeyValue}
    (hcount : key.length = 1)
    (h : model.keyValues ignoreCase entity key seen [⟨some name, text⟩] = .ok found) :
    model.keyValues ignoreCase entity key seen [⟨none, text⟩] = .ok found := by
  obtain ⟨only, rfl⟩ := List.length_eq_one_iff.1 hcount
  simp only [keyValues, Outcome.bind_eq_ok_iff] at h ⊢
  obtain ⟨property, hproperty, first, hfirst, hrest⟩ := h
  obtain rfl := List.mem_singleton.1 (keyProperty_own hproperty text).1
  refine ⟨property, rfl, first, ?_, hrest⟩
  exact keyValue_eq_ok_iff.2 (keyValue_eq_ok_iff.1 hfirst)

/-- A key that values write is written by its own values. -/
theorem entityKey_asValues {values : List NamedValue} {found : List KeyValue}
    (h : model.entityKey ignoreCase entity values = .ok found) :
    found.length = values.length ∧
      model.entityKey ignoreCase entity (KeyValue.asValues found) = .ok found ∧
      ∀ value ∈ found, (∃ property ∈ model.key entity, value.name = property.decl.name) ∧
        ∃ written ∈ values, value.text = written.value := by
  simp only [entityKey] at h ⊢
  split at h
  · contradiction
  · rename_i hcount
    rw [ne_eq, not_not] at hcount
    split at h
    · contradiction
    · obtain ⟨hlength, hagain, hfrom⟩ := keyValues_own h
      refine ⟨hlength, ?_, hfrom⟩
      rw [if_neg (by rw [KeyValue.length_asValues, hlength]; exact not_not.2 hcount)]
      rw [hcount] at hlength
      -- A single value is written without its name, which a key of one property allows.
      match found with
      | [] =>
          rw [if_neg (by simp [← hlength])]
          exact hagain
      | [value] =>
          rw [if_neg (by simp [← hlength])]
          exact keyValues_unnamed hlength.symm hagain
      | first :: second :: others =>
          rw [if_neg (by simp [KeyValue.asValues])]
          exact hagain

end Model
end ResourcePaths
