import ResourcePaths.Proofs.Binding.KeyValues
import ResourcePaths.Proofs.Model.Keys

/-!
# Key predicates

The values behind a token are a key exactly if they give each key property one value that fits its
type.  They may come in any order.  The names in front of them must be those of the key properties,
no more and no fewer; only where the key has a single property may its value go without a name.  All
other values are refused, and the fault is one of the key, at the token that they stand behind.
-/

namespace ResourcePaths

/-! ### Literals that fit -/

/-- A literal writes a value of a primitive type. -/
inductive Primitive.Writes : Primitive → Literal → Prop
  | boolean (value : Bool) : Writes .boolean (.boolean value)
  | string (value : String) : Writes .string (.string value)
  | guid (value : Guid) : Writes .guid (.guid value)
  | date (value : Date) : Writes .date (.date value)
  | dateTimeOffset (value : Instant) : Writes .dateTimeOffset (.dateTimeOffset value)
  | timeOfDay (value : TimeOfDay) : Writes .timeOfDay (.timeOfDay value)
  | duration {text : String} {value : Duration}
      (hvalue : Duration.ofText? text.toList = some value) : Writes .duration (.duration text)
  | integral {primitive : Primitive} {low high : Int} {value : Int64}
      (hlimits : primitive.limits? = some (low, high)) (hlow : low ≤ value.toInt)
      (hhigh : value.toInt ≤ high) : Writes primitive (.integer value)
  | whole {primitive : Primitive} {value : Int64}
      (hfloating : primitive = .decimal ∨ primitive = .double ∨ primitive = .single) :
      Writes primitive (.integer value)
  | fraction {primitive : Primitive} {value : Double}
      (hfloating : primitive = .decimal ∨ primitive = .double ∨ primitive = .single) :
      Writes primitive (.decimal value)

theorem Primitive.writes_of_accepts {primitive : Primitive} {literal : Literal}
    (h : primitive.accepts literal = true) : primitive.Writes literal := by
  cases literal with
  | null | enum => cases primitive <;> contradiction
  | integer value =>
      cases primitive with
      | byte | sbyte | int16 | int32 | int64 =>
          obtain ⟨hlow, hhigh⟩ := (accepts_integer_iff rfl value).1 h
          exact .integral rfl hlow hhigh
      | decimal | double | single => exact .whole (by simp)
      | _ => contradiction
  | decimal value =>
      cases primitive with
      | decimal | double | single => exact .fraction (by simp)
      | _ => contradiction
  | duration text =>
      cases primitive with
      | duration =>
          obtain ⟨value, hvalue⟩ := Option.isSome_iff_exists.1 h
          exact .duration hvalue
      | _ => contradiction
  | boolean | string | guid | date | dateTimeOffset | timeOfDay =>
      -- Each of these forms writes the values of one type.
      cases primitive <;> first | contradiction | constructor

/-- A primitive type accepts the literals that write its values, and no others. -/
theorem Primitive.accepts_iff {primitive : Primitive} {literal : Literal} :
    primitive.accepts literal = true ↔ primitive.Writes literal := by
  refine ⟨writes_of_accepts, ?_⟩
  intro h
  cases h with
  | boolean | string | guid | date | dateTimeOffset | timeOfDay => rfl
  | duration hvalue => exact Option.isSome_iff_exists.2 ⟨_, hvalue⟩
  | integral hlimits hlow hhigh => exact (accepts_integer_iff hlimits _).2 ⟨hlow, hhigh⟩
  | whole hfloating | fraction hfloating => rcases hfloating with rfl | rfl | rfl <;> rfl

/-- A literal fits a type: it writes a value of a primitive type, or of the one that a type
definition is based on, or it names a member of an enumeration type, which it may qualify by the
name of the type. -/
inductive Model.Fits (model : Model) : ModelType → Literal → Prop
  | primitive {primitive : Primitive} {literal : Literal} (hwrites : primitive.Writes literal) :
      Fits model (.primitive primitive) literal
  | definition {definition : TypeDefinition} {primitive : Primitive} {literal : Literal}
      (hunderlying : definition.underlyingType? = some primitive)
      (hwrites : primitive.Writes literal) : Fits model (.definition definition) literal
  | member {enumType : EnumType} {name : String}
      (hmember : ∃ member ∈ enumType.members, member.name = name) :
      Fits model (.enum enumType) (.string name)
  | qualifiedMember {enumType : EnumType} {typeName name : String}
      (htype : model.onlyTypeNamed? false typeName = some (.enum enumType))
      (hmember : ∃ member ∈ enumType.members, member.name = name) :
      Fits model (.enum enumType) (.enum typeName name)

theorem EnumType.isSome_findMember?_iff {type : EnumType} {name : String} :
    (type.findMember? name).isSome = true ↔ ∃ member ∈ type.members, member.name = name := by
  rw [findMember?, List.find?_isSome]
  simp only [decide_eq_true_eq]

theorem Model.fits_iff {model : Model} {type : ModelType} {literal : Literal} :
    model.fits false type literal = true ↔ model.Fits type literal := by
  constructor
  · intro h
    cases type with
    | primitive primitive => exact .primitive (Primitive.accepts_iff.1 h)
    | definition definition =>
        obtain ⟨primitive, hunderlying, haccepts⟩ := (Option.any_eq_true _ _).1 h
        exact .definition hunderlying (Primitive.accepts_iff.1 haccepts)
    | enum enumType =>
        cases literal with
        | string name => exact .member (EnumType.isSome_findMember?_iff.1 h)
        | enum typeName name =>
            obtain ⟨htype, hmember⟩ := Bool.and_eq_true_iff.1 h
            exact .qualifiedMember (of_decide_eq_true htype)
              (EnumType.isSome_findMember?_iff.1 hmember)
        | _ => contradiction
    | _ => contradiction
  · rintro (hwrites | ⟨hunderlying, hwrites⟩ | hmember | ⟨htype, hmember⟩)
    · exact Primitive.accepts_iff.2 hwrites
    · exact (Option.any_eq_true _ _).2 ⟨_, hunderlying, Primitive.accepts_iff.2 hwrites⟩
    · exact EnumType.isSome_findMember?_iff.2 hmember
    · exact Bool.and_eq_true_iff.2
        ⟨decide_eq_true htype, EnumType.isSome_findMember?_iff.2 hmember⟩

/-! ### Values of a key -/

/-- A value is for a property of a key: it has the name of the property in front of it, or, where
the key has no other property, no name. -/
inductive NamedValue.IsFor (key : List StructuralProperty) :
    NamedValue → StructuralProperty → Prop
  | named {property : StructuralProperty} {text : String} (hmem : property ∈ key) :
      IsFor key ⟨some property.decl.name, text⟩ property
  | only {property : StructuralProperty} {text : String} (hkey : key = [property]) :
      IsFor key ⟨none, text⟩ property

/-- A value of a token read as that of a key property: the name of the property as it is declared,
the literal that the text of the value writes, which fits the type of the property, and this very
text. -/
inductive Model.Reads (model : Model) (key : List StructuralProperty) : NamedValue → KeyValue → Prop
  | intro {value : NamedValue} {property : StructuralProperty} {literal : Literal}
      (hproperty : value.IsFor key property)
      (hliteral : Literal.ofText? value.value = some literal)
      (hfits : model.Fits (model.typeOf (.structural property)) literal) :
      Reads model key value ⟨property.decl.name, literal, value.value⟩

/-- The names in front of the values of a key whose properties have certain names: a single value
may go without, and otherwise there is each of the names once, in any order. -/
inductive NamesKey : List String → List (Option String) → Prop
  | single {own : String} {written : Option String} (hwritten : ∀ name ∈ written, name = own) :
      NamesKey [own] [written]
  | each {own names : List String} (hdistinct : names.Nodup) (hperm : names.Perm own) :
      NamesKey own (names.map some)

theorem NamesKey.nodup {own : List String} {written : List (Option String)}
    (h : NamesKey own written) : own.Nodup := by
  cases h with
  | single hwritten => exact List.nodup_singleton _
  | each hdistinct hperm => exact hperm.nodup_iff.1 hdistinct

/-- Values write the key of an entity type: there is one for each key property, they name the key
properties, and the text of each writes a literal that fits the type of its property. -/
structure Model.WritesKey (model : Model) (entity : StructuredType) (values : List NamedValue) :
    Prop where
  count : values.length = (model.key entity).length
  names : NamesKey ((model.key entity).map (·.decl.name)) (values.map (·.name))
  literals : ∀ value ∈ values, ∃ own, model.Reads (model.key entity) value own

namespace Model

variable {model : Model} {entity : StructuredType} {values : List NamedValue}
  {found : List KeyValue}

/-- A name finds the property that has it; the key has no other one of that name. -/
theorem keyProperty_named_eq_ok_iff {name text : String} {property : StructuralProperty} :
    keyProperty false entity (model.key entity) ⟨some name, text⟩ = .ok property ↔
      property ∈ model.key entity ∧ property.decl.name = name := by
  simp only [keyProperty]
  constructor
  · intro h
    split at h
    · rename_i other hother
      obtain rfl := Except.ok.inj h
      obtain ⟨hmem, hname⟩ := mem_of_findNamed? hother
      exact ⟨hmem, by simpa [Text.Matches] using hname⟩
    · contradiction
  · rintro ⟨hmem, rfl⟩
    split
    · rename_i other hother
      obtain ⟨hother, hname⟩ := mem_of_findNamed? hother
      have hsame : other.decl.name = property.decl.name := by simpa [Text.Matches] using hname
      rw [eq_of_mem_key hother hmem hsame]
    · rename_i hnone
      exact absurd (.inl rfl) (findNamed?_eq_none_iff.1 hnone property hmem)

/-- The property that a value is for is found, unless a value has no name although there are several
properties. -/
theorem keyProperty_eq_ok_iff {value : NamedValue} {property : StructuralProperty}
    (hcount : value.name = none → (model.key entity).length ≤ 1) :
    keyProperty false entity (model.key entity) value = .ok property ↔
      value.IsFor (model.key entity) property := by
  obtain ⟨name, text⟩ := value
  cases name with
  | none =>
      have hlength : (model.key entity).length ≤ 1 := hcount rfl
      cases hkey : model.key entity with
      | nil =>
          constructor
          · intro h
            contradiction
          · rintro (_ | hkey)
            contradiction
      | cons first others =>
          rw [hkey, List.length_cons] at hlength
          obtain rfl : others = [] := List.length_eq_zero_iff.1 (by omega)
          constructor
          · intro h
            obtain rfl := Except.ok.inj h
            exact .only rfl
          · rintro (_ | hkey)
            obtain rfl := List.head_eq_of_cons_eq hkey
            rfl
  | some name =>
      rw [keyProperty_named_eq_ok_iff]
      constructor
      · rintro ⟨hmem, rfl⟩
        exact .named hmem
      · rintro ⟨hmem⟩
        exact ⟨hmem, rfl⟩

/-- The walk over the values keeps apart the names that it has seen: it succeeds exactly if each
value reads as that of a key property, and no property comes twice. -/
theorem keyValues_eq_ok_iff {seen : List String}
    (hcount : ∀ value ∈ values, value.name = none → (model.key entity).length ≤ 1) :
    model.keyValues false entity (model.key entity) seen values = .ok found ↔
      List.Forall₂ (model.Reads (model.key entity)) values found ∧
        (found.map (·.name)).Nodup ∧ ∀ own ∈ found, own.name ∉ seen := by
  have hgives (value : NamedValue) (own : KeyValue)
      (hcount : value.name = none → (model.key entity).length ≤ 1) :
      model.GivesKey false entity (model.key entity) value own ↔
        model.Reads (model.key entity) value own := by
    constructor
    · rintro ⟨hproperty, hliteral, hfits⟩
      exact .intro ((keyProperty_eq_ok_iff hcount).1 hproperty) hliteral (fits_iff.1 hfits)
    · rintro ⟨hproperty, hliteral, hfits⟩
      exact .intro ((keyProperty_eq_ok_iff hcount).2 hproperty) hliteral (fits_iff.2 hfits)
  rw [keyValues_eq_ok_iff_givesKey]
  refine and_congr_left fun _ => ⟨fun h => ?_, fun h => ?_⟩
  · refine ((List.forall₂_and_left values found).2 ⟨hcount, h⟩).imp ?_
    rintro value own ⟨hvalue, hown⟩
    exact (hgives value own hvalue).1 hown
  · refine ((List.forall₂_and_left values found).2 ⟨hcount, h⟩).imp ?_
    rintro value own ⟨hvalue, hown⟩
    exact (hgives value own hvalue).2 hown

/-- A value of a key has the name of a key property. -/
theorem Reads.name_mem {key : List StructuralProperty} {value : NamedValue} {own : KeyValue}
    (h : model.Reads key value own) : own.name ∈ key.map (·.decl.name) := by
  obtain ⟨hproperty, -, -⟩ := h
  cases hproperty with
  | named hmem => exact List.mem_map_of_mem hmem
  | only hkey =>
      rw [hkey]
      exact List.mem_singleton_self _

theorem Reads.name_eq {key : List StructuralProperty} {value : NamedValue} {own : KeyValue}
    (h : model.Reads key value own) (hnamed : value.name ≠ none) : value.name = some own.name := by
  obtain ⟨hproperty, -, -⟩ := h
  cases hproperty with
  | named hmem => rfl
  | only hkey => contradiction

/-- Only the single property of a key goes without its name. -/
theorem Reads.exists_eq_singleton {key : List StructuralProperty} {value : NamedValue}
    {own : KeyValue} (h : model.Reads key value own) (hunnamed : value.name = none) :
    ∃ property, key = [property] := by
  obtain ⟨hproperty, -, -⟩ := h
  cases hproperty with
  | named hmem => contradiction
  | only hkey => exact ⟨_, hkey⟩

section Reads

variable {key : List StructuralProperty}

theorem map_name_of_reads (hreads : List.Forall₂ (model.Reads key) values found)
    (hnamed : ∀ value ∈ values, value.name ≠ none) :
    values.map (·.name) = (found.map (·.name)).map some := by
  induction hreads with
  | nil => rfl
  | cons hfirst hrest ih =>
      obtain ⟨hvalue, hothers⟩ := List.forall_mem_cons.1 hnamed
      rw [List.map_cons, List.map_cons, List.map_cons, hfirst.name_eq hvalue, ih hothers]

theorem subset_of_reads (hreads : List.Forall₂ (model.Reads key) values found) :
    found.map (·.name) ⊆ key.map (·.decl.name) := by
  induction hreads with
  | nil => exact List.nil_subset _
  | cons hfirst hrest ih => exact List.cons_subset.2 ⟨hfirst.name_mem, ih⟩

/-- As many different names of key properties as there are key properties are all of them. -/
theorem perm_of_reads (hreads : List.Forall₂ (model.Reads key) values found)
    (hcount : values.length = key.length) (hnodup : (found.map (·.name)).Nodup) :
    (found.map (·.name)).Perm (key.map (·.decl.name)) := by
  have hlength : (key.map (·.decl.name)).length ≤ (found.map (·.name)).length := by
    rw [List.length_map, List.length_map, ← hcount, hreads.length_eq]
  exact (List.subperm_of_subset hnodup (subset_of_reads hreads)).perm_of_length_le hlength

/-- Values that name the key properties read as those of different ones. -/
theorem nodup_of_reads (hreads : List.Forall₂ (model.Reads key) values found) {own : List String}
    (hnames : NamesKey own (values.map (·.name))) : (found.map (·.name)).Nodup := by
  generalize hwritten : values.map (·.name) = written at hnames
  cases hnames with
  | single hname =>
      have hlength : found.length = 1 := by
        rw [← hreads.length_eq, ← List.length_map NamedValue.name, hwritten, List.length_singleton]
      obtain ⟨only, rfl⟩ := List.length_eq_one_iff.1 hlength
      exact List.nodup_singleton only.name
  | each hdistinct hperm =>
      have hnamed : ∀ value ∈ values, value.name ≠ none := by
        intro value hvalue hunnamed
        have hmem : value.name ∈ values.map (·.name) := List.mem_map_of_mem hvalue
        rw [hwritten, hunnamed] at hmem
        simp at hmem
      rw [map_name_of_reads hreads hnamed] at hwritten
      rwa [List.map_injective_iff.2 (Option.some_injective String) hwritten]

theorem exists_reads_iff :
    (∃ found, List.Forall₂ (model.Reads key) values found) ↔
      ∀ value ∈ values, ∃ own, model.Reads key value own := by
  constructor
  · rintro ⟨found, hreads⟩
    induction hreads with
    | nil => exact List.forall_mem_nil _
    | cons hfirst hrest ih => exact List.forall_mem_cons.2 ⟨⟨_, hfirst⟩, ih⟩
  · intro h
    induction values with
    | nil => exact ⟨[], .nil⟩
    | cons value rest ih =>
        obtain ⟨⟨own, hown⟩, hrest⟩ := List.forall_mem_cons.1 h
        obtain ⟨found, hfound⟩ := ih hrest
        exact ⟨own :: found, .cons hown hfound⟩

end Reads

/-- Values without names are refused where there are several properties. -/
theorem positional_iff {count : Nat} :
    (1 < count && values.any (·.name.isNone)) = true ↔
      ¬ ∀ value ∈ values, value.name = none → count ≤ 1 := by
  simp only [Bool.and_eq_true, decide_eq_true_eq, List.any_eq_true, Option.isNone_iff_eq_none]
  constructor
  · rintro ⟨hlong, value, hvalue, hnone⟩ hall
    exact absurd (hall value hvalue hnone) (Nat.not_le.2 hlong)
  · intro h
    push Not at h
    obtain ⟨value, hvalue, hnone, hlong⟩ := h
    exact ⟨hlong, value, hvalue, hnone⟩

theorem entityKey_eq_ok_iff :
    model.entityKey false entity values = .ok found ↔
      values.length = (model.key entity).length ∧
        (∀ value ∈ values, value.name = none → (model.key entity).length ≤ 1) ∧
        List.Forall₂ (model.Reads (model.key entity)) values found ∧
        (found.map (·.name)).Nodup := by
  simp only [entityKey]
  by_cases hcount : values.length = (model.key entity).length
  · rw [if_neg (not_not.2 hcount)]
    by_cases hnames : ∀ value ∈ values, value.name = none → (model.key entity).length ≤ 1
    · rw [if_neg fun h => positional_iff.1 h hnames, keyValues_eq_ok_iff hnames]
      simp only [List.not_mem_nil, not_false_eq_true, implies_true, and_true]
      exact ⟨fun h => ⟨hcount, hnames, h⟩, fun h => h.2.2⟩
    · rw [if_pos (positional_iff.2 hnames)]
      constructor
      · intro h
        contradiction
      · rintro ⟨-, hall, -⟩
        exact absurd hall hnames
  · rw [if_pos hcount]
    constructor
    · intro h
      contradiction
    · rintro ⟨hall, -⟩
      exact absurd hall hcount

/-- Values give a key exactly if they write the key of the entity type. -/
theorem exists_entityKey_iff :
    (∃ found, model.entityKey false entity values = .ok found) ↔ model.WritesKey entity values := by
  constructor
  · rintro ⟨found, h⟩
    obtain ⟨hcount, -, hreads, hnodup⟩ := entityKey_eq_ok_iff.1 h
    have hliterals := exists_reads_iff.1 ⟨found, hreads⟩
    refine ⟨hcount, ?_, hliterals⟩
    by_cases hnamed : ∀ value ∈ values, value.name ≠ none
    · rw [map_name_of_reads hreads hnamed]
      exact .each hnodup (perm_of_reads hreads hcount hnodup)
    · -- A value without a name stands for the only property, and is itself the only value.
      push Not at hnamed
      obtain ⟨value, hvalue, hunnamed⟩ := hnamed
      obtain ⟨own, hown⟩ := hliterals value hvalue
      obtain ⟨property, hkey⟩ := hown.exists_eq_singleton hunnamed
      rw [hkey] at hcount ⊢
      obtain ⟨only, rfl⟩ := List.length_eq_one_iff.1 hcount
      obtain rfl := List.mem_singleton.1 hvalue
      have hwritten : ∀ name ∈ value.name, name = property.decl.name := by
        rw [hunnamed]
        intro name hname
        contradiction
      exact .single hwritten
  · rintro ⟨hcount, hnames, hliterals⟩
    obtain ⟨found, hreads⟩ := exists_reads_iff.2 hliterals
    refine ⟨found, entityKey_eq_ok_iff.2 ⟨hcount, fun value hvalue hunnamed => ?_, hreads, ?_⟩⟩
    · obtain ⟨own, hown⟩ := hliterals value hvalue
      obtain ⟨property, hkey⟩ := hown.exists_eq_singleton hunnamed
      rw [hkey]
      exact Nat.le_refl 1
    · exact nodup_of_reads hreads hnames

/-- A key in which a name comes twice is written by no values. -/
theorem WritesKey.nodup (h : model.WritesKey entity values) :
    ((model.key entity).map (·.decl.name)).Nodup :=
  h.names.nodup

end Model

/-! ### Binding -/

/-- A segment leads to a collection of the entities of a type. -/
structure Segment.LeadsToMany (segment : Segment) (entity : StructuredType) : Prop where
  type : segment.type = some (.structured entity)
  kind : entity.kind = .entity
  many : segment.cardinality = .collection

namespace Binder

variable {binder : Binder} {segment : Segment} {token : Token}

theorem keyAt_of_leadsToMany {entity : StructuredType} (h : segment.LeadsToMany entity)
    (model : Model) (ignoreCase : Bool) (values : List NamedValue) :
    model.keyAt ignoreCase segment.place values = model.entityKey ignoreCase entity values := by
  have hplace : segment.place = ⟨some (.structured entity), .collection, segment.source⟩ := by
    rw [Segment.place, h.type, h.many]
  have hentity : (ModelType.structured entity).entity? = some entity :=
    Model.entity?_eq_some_iff.2 ⟨rfl, h.kind⟩
  rw [hplace]
  simp only [Model.keyAt, hentity]

/-- Where there are values that are no arguments, the step is that of the key that they write. -/
theorem finishStep_of_values (hvalues : token.values ≠ []) (hcall : segment.isCall = false) :
    binder.finishStep token segment =
      match binder.model.keyAt binder.settings.ignoreCase segment.place token.values with
      | .ok found => .ok ⟨segment, some found⟩
      | .error fault => .error (.key fault) := by
  have htakes : (token.values.isEmpty || segment.isCall) = false := by
    rw [hcall, Bool.or_false]
    simpa using hvalues
  rw [finishStep, bindKey, htakes, if_neg Bool.false_ne_true]
  cases binder.model.keyAt binder.settings.ignoreCase segment.place token.values <;> rfl

theorem faultAt_of_values_eq_ok_iff (hvalues : token.values ≠ []) (hcall : segment.isCall = false)
    {index : Nat} {step : Step} :
    faultAt index token (binder.finishStep token segment) = .ok step ↔
      ∃ found, binder.model.keyAt binder.settings.ignoreCase segment.place token.values =
        .ok found ∧ step = ⟨segment, some found⟩ := by
  rw [faultAt_eq_ok_iff, finishStep_of_values hvalues hcall]
  cases binder.model.keyAt binder.settings.ignoreCase segment.place token.values with
  | ok found => simp [eq_comm]
  | error fault => simp

/-- Where the values are no key, the fault is one of the key, at the token. -/
theorem faultAt_of_values_eq_error (hvalues : token.values ≠ []) (hcall : segment.isCall = false)
    (index : Nat)
    (h : ¬ ∃ step, faultAt index token (binder.finishStep token segment) = .ok step) :
    ∃ fault, faultAt index token (binder.finishStep token segment) =
      .error (.token index token.identifier (.key fault)) := by
  cases hkey : binder.model.keyAt binder.settings.ignoreCase segment.place token.values with
  | ok found =>
      exact absurd ⟨_, (faultAt_of_values_eq_ok_iff hvalues hcall).2 ⟨found, hkey, rfl⟩⟩ h
  | error fault =>
      refine ⟨fault, ?_⟩
      rw [finishStep_of_values hvalues hcall, hkey]
      rfl

/-- Values behind a token whose segment is no call bind exactly if the segment leads to a collection
of entities and they write the key of the entity type.  Then the key stands behind the segment: it
has what each value reads as, in the order of the path, and one value for each key property.
Otherwise there is a fault of the key, at the position and with the identifier of the token. -/
theorem finishStep_key (binder : Binder) (hcase : binder.settings.ignoreCase = false)
    (segment : Segment) (hcall : segment.isCall = false) (token : Token)
    (hvalues : token.values ≠ []) (index : Nat) :
    let bound := faultAt index token (binder.finishStep token segment)
    (∀ entity, segment.LeadsToMany entity →
      ((∃ step, bound = .ok step) ↔ binder.model.WritesKey entity token.values) ∧
      ∀ step, bound = .ok step → ∃ found,
        step.segments = [segment, segment.keyed found] ∧
        List.Forall₂ (binder.model.Reads (binder.model.key entity)) token.values found ∧
        (found.map (·.name)).Perm ((binder.model.key entity).map (·.decl.name))) ∧
    ((¬ ∃ entity, segment.LeadsToMany entity) → ¬ ∃ step, bound = .ok step) ∧
    ((¬ ∃ step, bound = .ok step) →
      ∃ fault, bound = .error (.token index token.identifier (.key fault))) := by
  intro bound
  -- What is bound is the key that the values write at the place of the segment.
  have hok (step : Step) : bound = .ok step ↔ ∃ found,
      binder.model.keyAt false segment.place token.values = .ok found ∧
        step = ⟨segment, some found⟩ := by
    rw [← hcase]
    exact faultAt_of_values_eq_ok_iff hvalues hcall
  refine ⟨fun entity hentity => ⟨?_, fun step hstep => ?_⟩, ?_,
    faultAt_of_values_eq_error hvalues hcall index⟩
  · rw [← Model.exists_entityKey_iff, ← keyAt_of_leadsToMany hentity]
    constructor
    · rintro ⟨step, hstep⟩
      obtain ⟨found, hfound, -⟩ := (hok step).1 hstep
      exact ⟨found, hfound⟩
    · rintro ⟨found, hfound⟩
      exact ⟨_, (hok _).2 ⟨found, hfound, rfl⟩⟩
  · obtain ⟨found, hfound, rfl⟩ := (hok step).1 hstep
    rw [keyAt_of_leadsToMany hentity] at hfound
    obtain ⟨hcount, -, hreads, hnodup⟩ := Model.entityKey_eq_ok_iff.1 hfound
    exact ⟨found, rfl, hreads, Model.perm_of_reads hreads hcount hnodup⟩
  · rintro hnone ⟨step, hstep⟩
    obtain ⟨found, hfound, -⟩ := (hok step).1 hstep
    obtain ⟨entity, htype, hkind, hmany, -⟩ := Model.keyAt_eq_ok_iff.1 hfound
    exact hnone ⟨entity, htype, hkind, hmany⟩

/-- Lines of orders, told apart by the order and by a code. -/
def orderLines : Declared.Description where
  schemas := [{
    namespaceName := "Shop"
    entityTypes := [{
      name := "Line", key := some ["Order", "Code"]
      properties := [{ name := "Order", typeName := "Edm.Int32" },
        { name := "Code", typeName := "Edm.String" }] }]
    containers := [{
      name := "Default"
      entitySets := [{ name := "Lines", entityType := "Shop.Line" }] }] }]

def linesBinder : Binder :=
  .ofModel (.ofDescription orderLines) {}

def line : StructuredType :=
  ⟨0, "Shop", .entity, { name := "Line", key := some ["Order", "Code"]
                         properties := [{ name := "Order", typeName := "Edm.Int32" },
                           { name := "Code", typeName := "Edm.String" }] }⟩

def lines : Segment :=
  linesBinder.sourceSegment "Lines"
    ⟨1, .entitySet, 0, "Lines", "Shop.Line", [], true, {}⟩

/-- Behind the entity set, both values have their names and stand in an order of their own. -/
theorem finishStep_key_lines :
    let token : Token := .plain "Lines" [⟨some "Code", "'a'"⟩, ⟨some "Order", "7"⟩]
    linesBinder.settings.ignoreCase = false ∧ lines.isCall = false ∧ token.values ≠ [] ∧
      lines.LeadsToMany line ∧ linesBinder.model.WritesKey line token.values ∧
      ∃ step found, faultAt 0 token (linesBinder.finishStep token lines) = .ok step ∧
        step.segments = [lines, lines.keyed found] ∧
        (found.map (·.name)).Perm ["Order", "Code"] := by
  intro token
  have hlines : lines.LeadsToMany line := ⟨by decide +kernel, rfl, by decide +kernel⟩
  obtain ⟨hentity, -, -⟩ :=
    finishStep_key linesBinder rfl lines rfl token (List.cons_ne_nil _ _) 0
  obtain ⟨hwrites, hkey⟩ := hentity line hlines
  have hstep : faultAt 0 token (linesBinder.finishStep token lines) =
      .ok ⟨lines, some [⟨"Code", .string "a", "'a'"⟩, ⟨"Order", .integer 7, "7"⟩]⟩ := by
    decide +kernel
  obtain ⟨found, hsegments, -, hperm⟩ := hkey _ hstep
  have hnames : (linesBinder.model.key line).map (·.decl.name) = ["Order", "Code"] := by
    decide +kernel
  rw [hnames] at hperm
  exact ⟨rfl, rfl, List.cons_ne_nil _ _, hlines, hwrites.1 ⟨_, hstep⟩, _, found, hstep, hsegments,
    hperm⟩

end Binder

end ResourcePaths
