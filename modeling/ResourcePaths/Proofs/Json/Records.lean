import Mathlib.Data.List.Nodup
import ResourcePaths.Json.Record
import ResourcePaths.Proofs.Outcome

/-!
# Records read back

What a shape writes of a record is read back as that record, once each field hands its part of the
record on: it is read where it is written, and where it is left out the blank record has it
already.  A shape is gone through field by field, in the order in which the members stand.  An array
is read as the object whose members are its items, under the names of the fields.
-/

namespace ResourcePaths
namespace Json

variable {ρ α : Type}

/-! ### Values without flaws -/

/-- The value can be read to its end, whatever its shape. -/
def IsWhole (json : Json) : Prop :=
  json.readFault? = none

theorem isWhole_array {items : List Json} (h : ∀ item ∈ items, IsWhole item) :
    IsWhole (array items) := by
  show readItems? items = none
  induction items with
  | nil => rfl
  | cons item rest ih =>
      obtain ⟨hitem, hrest⟩ := List.forall_mem_cons.1 h
      rw [readItems?, show item.readFault? = none from hitem, ih hrest]
      rfl

theorem isWhole_object {members : List Member}
    (h : ∀ member ∈ members, ∃ name, member.1 = .ok name ∧ IsWhole member.2) :
    IsWhole (object members) := by
  show readMembers? members = none
  induction members with
  | nil => rfl
  | cons member rest ih =>
      obtain ⟨⟨name, hname, hvalue⟩, hrest⟩ := List.forall_mem_cons.1 h
      obtain ⟨key, value⟩ := member
      obtain rfl : key = .ok name := hname
      rw [readMembers?, show value.readFault? = none from hvalue, ih hrest]
      rfl

/-! ### Single values -/

/-- What is read item by item comes back from the items written one by one. -/
theorem asList_array {decode : Json → Except Fault α} {encode : α → Json} {values : List α}
    (h : ∀ value ∈ values, decode (encode value) = .ok value) :
    asList decode (array (values.map encode)) = .ok values := by
  show (values.map encode).mapM decode = .ok values
  induction values with
  | nil => rfl
  | cons value rest ih =>
      obtain ⟨hvalue, hrest⟩ := List.forall_mem_cons.1 h
      rw [List.map_cons, List.mapM_cons, hvalue, ih hrest]
      rfl

theorem asOption_of_ne_null {read : Json → Except Fault α} {json : Json} (h : json ≠ null) :
    asOption read json = (read json).map some := by
  cases json with
  | null => contradiction
  | bool | integer | decimal | string | array | object | flaw => rfl

theorem asInteger_integer {inRange : Int → Bool} {value : Int} (h : inRange value = true) :
    asInteger inRange (integer value) = .ok value :=
  if_pos h

/-! ### Fields -/

/-- What the field writes of a record leads from one state of reading to the next: it is read where
it is written, and changes nothing where it is left out. -/
def FieldShape.Carries (field : FieldShape ρ) (record before after : ρ) : Prop :=
  match field.write record with
  | some value => field.read value before = .ok after
  | none => field.required = false ∧ after = before

/-- What the field writes of a record has no flaws. -/
def FieldShape.WritesWhole (field : FieldShape ρ) (record : ρ) : Prop :=
  ∀ value ∈ field.write record, IsWhole value

theorem FieldShape.writesWhole_needed {record : ρ} {name : String} {get : ρ → String}
    {set : ρ → String → ρ} : (FieldShape.needed name get set).WritesWhole record := by
  rintro _ ⟨rfl⟩
  rfl

theorem FieldShape.writesWhole_maybeText {record : ρ} {name : String} {get : ρ → Option String}
    {set : ρ → Option String → ρ} : (FieldShape.maybeText name get set).WritesWhole record := by
  intro value hvalue
  obtain ⟨text, -, rfl⟩ := Option.map_eq_some_iff.1 hvalue
  rfl

theorem FieldShape.writesWhole_value {record : ρ} {name : String}
    {decode : Json → Except Fault α} {encode : α → Json} {get : ρ → α} {set : ρ → α → ρ}
    (h : IsWhole (encode (get record))) :
    (FieldShape.value name decode encode get set).WritesWhole record := by
  rintro _ ⟨rfl⟩
  exact h

/-- Fields lead, one after the other, from one state of reading to another one. -/
inductive CarriesAll (record : ρ) : List (FieldShape ρ) → ρ → ρ → Prop
  | nil {state : ρ} : CarriesAll record [] state state
  | cons {field : FieldShape ρ} {fields : List (FieldShape ρ)} {before mid after : ρ}
      (hfield : field.Carries record before mid) (hrest : CarriesAll record fields mid after) :
      CarriesAll record (field :: fields) before after

namespace CarriesAll

variable {record before after : ρ} {fields : List (FieldShape ρ)} {name : String}
  {required : Bool}

/-- A field that is always written. -/
theorem written {decode : Json → Except Fault α} (encode : α → Json) {get : ρ → α}
    {set : ρ → α → ρ} (hread : decode (encode (get record)) = .ok (get record))
    (hrest : CarriesAll record fields (set before (get record)) after) :
    CarriesAll record
      (.of name required decode (fun value => some (encode value)) get set :: fields)
      before after := by
  refine .cons ?_ hrest
  show (decode (encode (get record))).map (set before) = _
  rw [hread]
  rfl

/-- A field that is left out where it has nothing, which the state of reading then has as well. -/
theorem option {read : Json → Except Fault α} {write : α → Json} {get : ρ → Option α}
    {set : ρ → Option α → ρ} (hnull : ∀ value, write value ≠ null)
    (hread : ∀ value, read (write value) = .ok value) (hblank : set before none = before)
    (hrest : CarriesAll record fields (set before (get record)) after) :
    CarriesAll record
      (.of name false (asOption read) (fun value => value.map write) get set :: fields)
      before after := by
  refine .cons ?_ hrest
  simp only [FieldShape.Carries, FieldShape.of]
  cases get record with
  | none => exact ⟨trivial, hblank⟩
  | some value =>
      show (asOption read (write value)).map (set before) = _
      rw [asOption_of_ne_null (hnull value), hread value]
      rfl

theorem needed {get : ρ → String} {set : ρ → String → ρ}
    (hrest : CarriesAll record fields (set before (get record)) after) :
    CarriesAll record (.needed name get set :: fields) before after :=
  .written string rfl hrest

theorem text {get : ρ → String} {set : ρ → String → ρ}
    (hrest : CarriesAll record fields (set before (get record)) after) :
    CarriesAll record (.text name get set :: fields) before after :=
  .written string rfl hrest

theorem maybeText {get : ρ → Option String} {set : ρ → Option String → ρ}
    (hblank : set before none = before)
    (hrest : CarriesAll record fields (set before (get record)) after) :
    CarriesAll record (.maybeText name get set :: fields) before after :=
  .option (fun _ => nofun) (fun _ => rfl) hblank hrest

theorem flag {get : ρ → Bool} {set : ρ → Bool → ρ}
    (hrest : CarriesAll record fields (set before (get record)) after) :
    CarriesAll record (.flag name get set :: fields) before after :=
  .written bool rfl hrest

theorem list {decode : Json → Except Fault α} {encode : α → Json} {get : ρ → List α}
    {set : ρ → List α → ρ} (hread : ∀ value, decode (encode value) = .ok value)
    (hrest : CarriesAll record fields (set before (get record)) after) :
    CarriesAll record (.list name decode encode get set :: fields) before after :=
  .written (fun values : List α => array (values.map encode))
    (asList_array fun value _ => hread value) hrest

theorem value {decode : Json → Except Fault α} {encode : α → Json} {get : ρ → α}
    {set : ρ → α → ρ} (hread : ∀ value, decode (encode value) = .ok value)
    (hrest : CarriesAll record fields (set before (get record)) after) :
    CarriesAll record (.value name decode encode get set :: fields) before after :=
  .written encode (hread _) hrest

end CarriesAll

/-! ### Items with names -/

/-- Items as members with the names of their places. -/
def named (names : List String) (items : List Json) : List Member :=
  List.zipWith (fun name item => (.ok name, item)) names items

theorem mem_named {names : List String} {items : List Json} {member : Member}
    (h : member ∈ named names items) :
    ∃ name ∈ names, ∃ item ∈ items, member = (.ok name, item) := by
  obtain ⟨place, hplace, rfl⟩ := List.mem_iff_getElem.1 h
  rw [named, List.length_zipWith, Nat.lt_min] at hplace
  exact ⟨names[place], List.getElem_mem hplace.1, items[place], List.getElem_mem hplace.2,
    List.getElem_zipWith⟩

/-! ### Shapes -/

namespace Shape

variable {shape : Shape ρ}

/-- The fields of the shape have names of their own, and together they carry every record. -/
structure Restores (shape : Shape ρ) : Prop where
  distinct : (shape.fields.map (·.name)).Nodup
  carries : ∀ record, CarriesAll record shape.fields shape.blank record

/-- The members that fields write of a record. -/
def membersOf (record : ρ) (fields : List (FieldShape ρ)) : List Member :=
  (fields.filterMap fun field => (field.write record).map fun value => (field.name, value)).map
    fun (name, value) => (.ok name, value)

theorem encode_eq (record : ρ) : shape.encode record = object (membersOf record shape.fields) :=
  rfl

theorem membersOf_cons (record : ρ) (field : FieldShape ρ) (fields : List (FieldShape ρ)) :
    membersOf record (field :: fields) =
      match field.write record with
      | some value => (.ok field.name, value) :: membersOf record fields
      | none => membersOf record fields := by
  unfold membersOf
  rw [List.filterMap_cons]
  cases field.write record <;> rfl

theorem mem_membersOf {record : ρ} {fields : List (FieldShape ρ)} {member : Member}
    (h : member ∈ membersOf record fields) :
    ∃ field ∈ fields, ∃ value, field.write record = some value ∧
      member = (.ok field.name, value) := by
  obtain ⟨⟨name, value⟩, hpair, rfl⟩ := List.mem_map.1 h
  obtain ⟨field, hfield, hwrite⟩ := List.mem_filterMap.1 hpair
  obtain ⟨found, hfound, heq⟩ := Option.map_eq_some_iff.1 hwrite
  obtain ⟨rfl, rfl⟩ := Prod.mk.inj heq
  exact ⟨field, hfield, found, hfound, rfl⟩

/-- A field is found by its name, where no other field has the name. -/
theorem find?_name {fields : List (FieldShape ρ)} {field : FieldShape ρ}
    (hdistinct : (fields.map (·.name)).Nodup) (h : field ∈ fields) :
    (fields.find? fun other => other.name = field.name) = some field := by
  induction fields with
  | nil => contradiction
  | cons first rest ih =>
      rw [List.map_cons, List.nodup_cons] at hdistinct
      rw [List.find?_cons]
      rcases List.mem_cons.1 h with rfl | hrest
      · simp
      · have hne : first.name ≠ field.name := fun heq =>
          hdistinct.1 (heq ▸ List.mem_map_of_mem hrest)
        simp only [hne, decide_false]
        exact ih hdistinct.2 hrest

/-- A member is read as the field of its name, where the name has not been seen before. -/
theorem take_field {field : FieldShape ρ} {name : String} {value : Json} {before : ρ}
    {seen : List String}
    (hfound : (shape.fields.find? fun field => field.name = name) = some field)
    (hnew : name ∉ seen) :
    shape.take (before, seen) (.ok name, value) =
      (field.read value before).map fun record => (record, name :: seen) := by
  have hok (next : String → Except Fault (ρ × List String)) :
      (Except.ok name >>= next) = next name := rfl
  simp only [take, hok, hfound, List.contains_eq_mem, hnew, decide_false, Bool.false_eq_true,
    if_false]
  rfl

theorem take_unknown {name : String} {value : Json} (state : ρ × List String)
    (hnone : (shape.fields.find? fun field => field.name = name) = none)
    (hskip : value.skipFault? = none) : shape.take state (.ok name, value) = .ok state := by
  have hok (next : String → Except Fault (ρ × List String)) :
      (Except.ok name >>= next) = next name := rfl
  simp only [take, hok, hnone, hskip]
  rfl

/-- Reading what fields write of a record goes through the states that the fields lead to, and has
seen all fields that have to be there. -/
theorem foldlM_take_membersOf (hdistinct : (shape.fields.map (·.name)).Nodup) {record : ρ}
    {fields : List (FieldShape ρ)} {before after : ρ} {seen : List String}
    (hcarries : CarriesAll record fields before after)
    (hfields : ∀ field ∈ fields, field ∈ shape.fields)
    (hnames : (fields.map (·.name)).Nodup) (hseen : ∀ field ∈ fields, field.name ∉ seen) :
    ∃ found, (membersOf record fields).foldlM shape.take (before, seen) = .ok (after, found) ∧
      (∀ name ∈ seen, name ∈ found) ∧
      ∀ field ∈ fields, field.required = true → field.name ∈ found := by
  induction hcarries generalizing seen with
  | nil => exact ⟨seen, rfl, fun _ => id, by simp⟩
  | @cons field fields before mid after hfield hrest ih =>
      obtain ⟨hmem, hmems⟩ := List.forall_mem_cons.1 hfields
      obtain ⟨hnew, hnews⟩ := List.forall_mem_cons.1 hseen
      rw [List.map_cons, List.nodup_cons] at hnames
      rw [membersOf_cons]
      unfold FieldShape.Carries at hfield
      split at hfield
      · rename_i value hwrite
        -- The field is read under its name, which is a new one.
        have hfresh : ∀ other ∈ fields, other.name ∉ field.name :: seen := by
          intro other hother hseen
          rcases List.mem_cons.1 hseen with heq | hseen
          · exact hnames.1 (heq ▸ List.mem_map_of_mem hother)
          · exact hnews other hother hseen
        obtain ⟨found, hfold, hkept, hrequired⟩ := ih hmems hnames.2 hfresh
        have htake : shape.take (before, seen) (.ok field.name, value) =
            .ok (mid, field.name :: seen) := by
          rw [take_field (find?_name hdistinct hmem) hnew, hfield]
          rfl
        refine ⟨found, ?_, fun name hname => hkept name (List.mem_cons_of_mem _ hname), ?_⟩
        · rw [List.foldlM_cons, htake]
          exact hfold
        · exact List.forall_mem_cons.2 ⟨fun _ => hkept _ List.mem_cons_self, hrequired⟩
      · rename_i hwrite
        obtain ⟨hoptional, rfl⟩ := hfield
        obtain ⟨found, hfold, hkept, hrequired⟩ := ih hmems hnames.2 hnews
        refine ⟨found, ?_, hkept, List.forall_mem_cons.2 ⟨fun h => ?_, hrequired⟩⟩
        · exact hfold
        · rw [hoptional] at h
          contradiction

/-- Reading gives back the record that was written. -/
theorem decode_encode (h : shape.Restores) (record : ρ) :
    shape.decode (shape.encode record) = .ok record := by
  have hnew : ∀ field ∈ shape.fields, field.name ∉ ([] : List String) := by simp
  obtain ⟨found, hfold, -, hrequired⟩ :=
    foldlM_take_membersOf h.distinct (h.carries record) (fun _ => id) h.distinct hnew
  have hcomplete : shape.complete found = true := by
    refine List.all_eq_true.2 fun field hfield => ?_
    cases hneeded : field.required with
    | false => rfl
    | true => simpa using hrequired field hfield hneeded
  rw [encode_eq]
  show ((membersOf record shape.fields).foldlM shape.take (shape.blank, []) >>= _) = _
  rw [hfold]
  exact if_pos hcomplete

/-- A member that is not a field does not matter, when it can be skipped. -/
theorem decode_cons_of_unknown {name : String} {value : Json} (members : List Member)
    (hname : name ∉ shape.fields.map (·.name)) (hskip : value.skipFault? = none) :
    shape.decode (object ((.ok name, value) :: members)) = shape.decode (object members) := by
  have hnone : (shape.fields.find? fun field => field.name = name) = none := by
    refine List.find?_eq_none.2 fun field hfield hfound => hname ?_
    exact of_decide_eq_true hfound ▸ List.mem_map_of_mem hfield
  show (((.ok name, value) :: members).foldlM shape.take (shape.blank, []) >>= _) = _
  rw [List.foldlM_cons, take_unknown (shape.blank, []) hnone hskip]
  rfl

/-- What is written of a record has no flaws, when no field has any. -/
theorem isWhole_encode {record : ρ} (h : ∀ field ∈ shape.fields, field.WritesWhole record) :
    IsWhole (shape.encode record) := by
  refine isWhole_object fun member hmember => ?_
  obtain ⟨field, hfield, value, hwrite, rfl⟩ := mem_membersOf hmember
  exact ⟨field.name, rfl, h field hfield value hwrite⟩

/-! ### Arrays -/

/-- Once the first fields have been seen, all is there if none of the other ones has to be. -/
theorem complete_iff {seen fields : List (FieldShape ρ)} (hfields : shape.fields = seen ++ fields)
    (hdistinct : (shape.fields.map (·.name)).Nodup) :
    shape.complete (seen.map (·.name)).reverse = true ↔ fields.any (·.required) = false := by
  rw [hfields, List.map_append, List.nodup_append] at hdistinct
  obtain ⟨-, -, hapart⟩ := hdistinct
  rw [complete, hfields, List.all_eq_true, List.any_eq_false]
  constructor
  · intro hall field hfield hrequired
    have hseen : field.name ∈ seen.map (·.name) := by
      simpa [hrequired] using hall field (List.mem_append_right _ hfield)
    exact hapart _ hseen _ (List.mem_map_of_mem hfield) rfl
  · intro hnone field hfield
    rcases List.mem_append.1 hfield with hseen | hrest
    · have hname : field.name ∈ (seen.map (·.name)).reverse :=
        List.mem_reverse.2 (List.mem_map_of_mem hseen)
      simp [hname]
    · simp [hnone field hrest]

/-- Items are read as the members that have the names of their fields. -/
theorem takeItems_eq (seen : List (FieldShape ρ)) {fields : List (FieldShape ρ)}
    {items : List Json} (hdistinct : (shape.fields.map (·.name)).Nodup)
    (hfields : shape.fields = seen ++ fields) (hlength : items.length ≤ fields.length)
    (record : ρ) :
    takeItems fields items record =
      (named (fields.map (·.name)) items).foldlM shape.take
          (record, (seen.map (·.name)).reverse) >>=
        fun (record, seen) => if shape.complete seen then pure record else .error .wrongShape := by
  induction items generalizing seen fields record with
  | nil =>
      have hcomplete := complete_iff hfields hdistinct
      rw [named, List.zipWith_nil_right]
      show _ = if shape.complete (seen.map (·.name)).reverse then Except.ok record else _
      cases fields with
      | nil => rw [if_pos (hcomplete.2 rfl), takeItems]
      | cons field fields =>
          rw [takeItems]
          cases hany : (field :: fields).any (·.required) with
          | false => rw [if_neg Bool.false_ne_true, if_pos (hcomplete.2 hany)]
          | true =>
              have hmissing : ¬shape.complete (seen.map (·.name)).reverse = true := by
                rw [hcomplete, hany]
                exact Bool.noConfusion
              rw [if_pos rfl, if_neg hmissing]
  | cons item rest ih =>
      cases fields with
      | nil => contradiction
      | cons field fields =>
          have hmem : field ∈ shape.fields := hfields ▸ List.mem_append_right _ List.mem_cons_self
          have hnew : field.name ∉ (seen.map (·.name)).reverse := by
            rw [hfields, List.map_append, List.nodup_append] at hdistinct
            intro hseen
            exact hdistinct.2.2 _ (List.mem_reverse.1 hseen) _ List.mem_cons_self rfl
          have htake : shape.take (record, (seen.map (·.name)).reverse) (.ok field.name, item) =
              (field.read item record).map fun next =>
                (next, field.name :: (seen.map (·.name)).reverse) :=
            take_field (find?_name hdistinct hmem) hnew
          have hseen : ((seen ++ [field]).map (·.name)).reverse =
              field.name :: (seen.map (·.name)).reverse := by simp
          have hrest := ih (seen ++ [field]) (by simpa using hfields)
            (Nat.le_of_succ_le_succ hlength)
          rw [List.map_cons, named, List.zipWith_cons_cons, List.foldlM_cons, htake, takeItems]
          cases field.read item record with
          | error fault => rfl
          | ok next =>
              rw [hseen] at hrest
              exact hrest next

/-- An array writes a record as the object does that gives its items the names of the fields. -/
theorem decode_array {items : List Json} (hdistinct : (shape.fields.map (·.name)).Nodup)
    (hlength : items.length ≤ shape.fields.length) :
    shape.decode (array items) =
      shape.decode (object (named (shape.fields.map (·.name)) items)) :=
  takeItems_eq [] hdistinct rfl hlength shape.blank

end Shape
end Json
end ResourcePaths
