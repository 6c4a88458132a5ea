import Mathlib.Algebra.Order.Ring.Int
import Mathlib.Data.List.Nodup
import ResourcePaths.Model.Enumeration
import ResourcePaths.Proofs.Number.Words

/-!
# The values of members

A member without a written value goes on from the member in front of it: it has the next value, or,
in a flags type, the double.  Either is greater than the value that it goes on from, until the
greatest word is reached.  Nothing is beyond that one, and the values stay there: from then on they
are no longer new, and no problem says so.
-/

namespace ResourcePaths
namespace EnumType

/-! ### One value after the other -/

theorem toInt_nextValue_plain (value : Int64) :
    (nextValue false value).toInt = min (value.toInt + 1) 9223372036854775807 := by
  have hlow := value.le_toInt
  rw [nextValue, if_neg Bool.false_ne_true, Integer.toInt_saturate]
  omega

theorem toInt_nextValue_flags (value : Int64) :
    (nextValue true value).toInt = min (max (2 * value.toInt) 1) 9223372036854775807 := by
  rw [nextValue, if_pos rfl, Integer.toInt_saturate]
  omega

theorem toInt_eq_greatest_iff {value : Int64} :
    value.toInt = 9223372036854775807 ↔ value = Int64.maxValue := by
  rw [← Int64.toInt_inj]
  exact Iff.rfl

/-- The next value is greater, wherever there is a greater one. -/
theorem lt_nextValue (isFlags : Bool) {value : Int64} (h : value ≠ Int64.maxValue) :
    value < nextValue isFlags value := by
  have hlimit : value.toInt ≠ 9223372036854775807 := fun heq => h (toInt_eq_greatest_iff.1 heq)
  have hhigh := value.toInt_lt
  rw [Int64.lt_iff_toInt_lt]
  cases isFlags with
  | false =>
      rw [toInt_nextValue_plain]
      omega
  | true =>
      rw [toInt_nextValue_flags]
      omega

theorem nextValue_greatest (isFlags : Bool) :
    nextValue isFlags Int64.maxValue = Int64.maxValue := by
  cases isFlags with
  | false => decide
  | true => decide

/-- A single bit is followed by the next one; behind the last one comes the greatest value, which
has all bits. -/
theorem toInt_nextValue_bit {value : Int64} {i : Nat}
    (h : value.toInt = min (2 ^ i) 9223372036854775807) :
    (nextValue true value).toInt = min (2 ^ (i + 1)) 9223372036854775807 := by
  have hpos : (0 : Int) < 2 ^ i := Int.pow_pos (by decide)
  rw [toInt_nextValue_flags, h, Int.pow_succ]
  omega

/-! ### All values of a list -/

section Numbering

variable {isFlags : Bool} {next : Int64} {declared : List Declared.EnumMember} {i : Nat}

/-- Each member has its place, its name, and the value that is written for it, if one is. -/
theorem exists_getElem?_number {written : Declared.EnumMember} (h : declared[i]? = some written) :
    ∃ member, (number isFlags next declared)[i]? = some member ∧ member.name = written.name ∧
      ∀ value, written.value = some value → member.value = value := by
  induction declared generalizing next i with
  | nil => simp at h
  | cons first rest ih =>
      rw [number]
      cases i with
      | zero =>
          obtain rfl := Option.some.inj h
          exact ⟨_, rfl, rfl, fun value hvalue => by simp [hvalue]⟩
      | succ i =>
          rw [List.getElem?_cons_succ] at h ⊢
          exact ih h

/-- Where no value is written, the one in front decides, wherever in the list that is. -/
theorem value_of_implicit {before member : EnumMember} {implicit : Declared.EnumMember}
    (hbefore : (number isFlags next declared)[i]? = some before)
    (hmember : (number isFlags next declared)[i + 1]? = some member)
    (himplicit : declared[i + 1]? = some implicit) (hvalue : implicit.value = none) :
    member.value = nextValue isFlags before.value := by
  induction declared generalizing next i with
  | nil => simp at himplicit
  | cons first rest ih =>
      rw [number, List.getElem?_cons_succ] at hmember
      rw [List.getElem?_cons_succ] at himplicit
      cases i with
      | zero =>
          rw [number] at hbefore
          obtain rfl := Option.some.inj hbefore
          cases rest with
          | nil => simp at himplicit
          | cons second rest =>
              obtain rfl := Option.some.inj himplicit
              rw [number] at hmember
              obtain rfl := Option.some.inj hmember
              simp [hvalue]
      | succ i =>
          rw [number, List.getElem?_cons_succ] at hbefore
          exact ih hbefore hmember himplicit

/-- Flags without written values are the powers of two, as far as there are any. -/
theorem value_of_flags {k : Nat} {member : EnumMember}
    (hnext : next.toInt = min (2 ^ k) 9223372036854775807)
    (hvalues : ∀ written ∈ declared, written.value = none)
    (hmember : (number true next declared)[i]? = some member) :
    member.value.toInt = min (2 ^ (k + i)) 9223372036854775807 := by
  induction declared generalizing next i k with
  | nil => simp [number] at hmember
  | cons first rest ih =>
      obtain ⟨hfirst, hrest⟩ := List.forall_mem_cons.1 hvalues
      rw [number, hfirst, Option.getD_none] at hmember
      cases i with
      | zero =>
          obtain rfl := Option.some.inj hmember
          exact hnext
      | succ i =>
          rw [List.getElem?_cons_succ] at hmember
          have hvalue := ih (toInt_nextValue_bit hnext) hrest hmember
          rwa [Nat.add_right_comm, Nat.add_assoc] at hvalue

end Numbering

/-! ### Members of a type -/

/-- A member without a written value, and the member right in front of it. -/
def GoesOn (type : EnumType) (before member : EnumMember) : Prop :=
  ∃ i, type.members[i]? = some before ∧ type.members[i + 1]? = some member ∧
    ∃ implicit, type.decl.members[i + 1]? = some implicit ∧ implicit.value = none

/-- Whether no value of the type is written. -/
def IsImplicit (type : EnumType) : Prop :=
  ∀ written ∈ type.decl.members, written.value = none

theorem GoesOn.value_eq {type : EnumType} {before member : EnumMember}
    (h : type.GoesOn before member) : member.value = nextValue type.decl.isFlags before.value := by
  obtain ⟨i, hbefore, hmember, implicit, himplicit, hvalue⟩ := h
  exact value_of_implicit hbefore hmember himplicit hvalue

theorem toInt_value_of_flags {type : EnumType} (hflags : type.decl.isFlags = true)
    (himplicit : type.IsImplicit) {i : Nat} {member : EnumMember}
    (h : type.members[i]? = some member) :
    member.value.toInt = min (2 ^ i) 9223372036854775807 := by
  rw [members, hflags, if_pos rfl] at h
  have hvalue := value_of_flags (k := 0) (by decide) himplicit h
  rwa [Nat.zero_add] at hvalue

/-- Different flags have different bits, as long as there are bits. -/
theorem nodup_values_of_flags {type : EnumType} (hflags : type.decl.isFlags = true)
    (himplicit : type.IsImplicit) (hlength : type.members.length ≤ 63) :
    (type.members.map EnumMember.value).Nodup := by
  have hbit {i : Nat} {value : Int64} (hi : i < 63)
      (h : (type.members.map EnumMember.value)[i]? = some value) : value.toInt = 2 ^ i := by
    rw [List.getElem?_map, Option.map_eq_some_iff] at h
    obtain ⟨member, hmember, rfl⟩ := h
    rw [toInt_value_of_flags hflags himplicit hmember]
    have hle : (2 : Int) ^ i ≤ 2 ^ 62 := pow_le_pow_right₀ one_le_two (by omega)
    omega
  rw [List.nodup_iff_getElem?_ne_getElem?]
  intro i j hij hj heq
  rw [List.length_map] at hj
  obtain ⟨value, hvalue⟩ : ∃ value, (type.members.map EnumMember.value)[j]? = some value :=
    Option.isSome_iff_exists.1 (by simpa using hj)
  have hpow : (2 : Int) ^ i = 2 ^ j := by
    rw [← hbit (by omega) (heq.trans hvalue), hbit (by omega) hvalue]
  have hlt : (2 : Int) ^ i < 2 ^ j := pow_lt_pow_right₀ one_lt_two hij
  omega

/-- Written values count.  A member without one has a greater value than the member in front of it,
unless that one has the greatest value there is, which then comes again; in a plain type the value is
the next one, up to that end, and flags without written values are the single bits from the lowest one
on, all different, up to the sixty-third, and the greatest value behind it. -/
theorem members_fresh (type : EnumType) :
    (∀ (i : Nat) (written : Declared.EnumMember), type.decl.members[i]? = some written →
      ∃ member : EnumMember, type.members[i]? = some member ∧ member.name = written.name ∧
        ∀ value, written.value = some value → member.value = value) ∧
    (∀ before member, type.GoesOn before member →
      (before.value < member.value ∨
        before.value = Int64.maxValue ∧ member.value = Int64.maxValue) ∧
      (type.decl.isFlags = false → before.value ≠ Int64.maxValue →
        member.value.toInt = before.value.toInt + 1)) ∧
    (type.decl.isFlags = true → type.IsImplicit →
      (∀ (i : Nat) (member : EnumMember), type.members[i]? = some member →
        (i < 63 → member.value.toInt = 2 ^ i) ∧ (63 ≤ i → member.value = Int64.maxValue)) ∧
      (type.members.length ≤ 63 → (type.members.map EnumMember.value).Nodup)) := by
  refine ⟨fun _ _ => exists_getElem?_number, fun before member hgoes => ?_, fun hflags himplicit =>
    ⟨fun i member hmember => ?_, nodup_values_of_flags hflags himplicit⟩⟩
  · rw [hgoes.value_eq]
    constructor
    · by_cases hend : before.value = Int64.maxValue
      · exact .inr ⟨hend, by rw [hend, nextValue_greatest]⟩
      · exact .inl (lt_nextValue _ hend)
    · intro hplain hend
      have hhigh := before.value.toInt_lt
      have hlimit : before.value.toInt ≠ 9223372036854775807 :=
        fun heq => hend (toInt_eq_greatest_iff.1 heq)
      rw [hplain, toInt_nextValue_plain]
      omega
  · have hvalue := toInt_value_of_flags hflags himplicit hmember
    constructor
    · intro hi
      have hle : (2 : Int) ^ i ≤ 2 ^ 62 := pow_le_pow_right₀ one_le_two (by omega)
      omega
    · intro hi
      have hle : (2 : Int) ^ 63 ≤ 2 ^ i := pow_le_pow_right₀ one_le_two hi
      exact toInt_eq_greatest_iff.1 (by omega)

/-- A type whose first member has the greatest value. -/
def brimful : EnumType where
  id := 0
  namespaceName := "N"
  decl := { name := "Level", members := [{ name := "Top", value := some Int64.maxValue },
    { name := "Over" }, { name := "Low", value := some (-7) }, { name := "Lower" }] }

/-- Both sides of the end of the range. -/
theorem members_fresh_brimful :
    brimful.GoesOn ⟨"Top", Int64.maxValue⟩ ⟨"Over", Int64.maxValue⟩ ∧
      brimful.GoesOn ⟨"Low", -7⟩ ⟨"Lower", -6⟩ ∧ (-7 : Int64) < -6 ∧
      (-6 : Int64).toInt = (-7 : Int64).toInt + 1 := by
  have hend : brimful.GoesOn ⟨"Top", Int64.maxValue⟩ ⟨"Over", Int64.maxValue⟩ :=
    ⟨0, by decide, by decide, _, rfl, rfl⟩
  have hlow : brimful.GoesOn ⟨"Low", -7⟩ ⟨"Lower", -6⟩ := ⟨2, by decide, by decide, _, rfl, rfl⟩
  obtain ⟨hgreater, hnext⟩ := (members_fresh brimful).2.1 _ _ hlow
  exact ⟨hend, hlow, hgreater.resolve_right (by decide), hnext rfl (by decide)⟩

/-- A flags type with one member more than there are bits. -/
def manyFlags : EnumType where
  id := 1
  namespaceName := "N"
  decl := { name := "Rights", isFlags := true
            members := (List.range 64).map fun i => { name := toString i } }

/-- The member behind the greatest value has that value, too, the sixty-fourth flag has all bits
instead of one, and nothing is reported. -/
theorem not_members_fresh :
    (¬ ∀ (context : Option Model) (type : EnumType), type.errorsIn context = [] →
      ∀ before member, type.GoesOn before member →
        before.value < member.value ∧
          (type.decl.isFlags = false → member.value.toInt = before.value.toInt + 1)) ∧
    ¬ ∀ (context : Option Model) (type : EnumType), type.errorsIn context = [] →
      type.decl.isFlags = true → type.IsImplicit →
        ∀ (i : Nat) (member : EnumMember), type.members[i]? = some member →
          member.value.toInt = 2 ^ i := by
  let model := Model.ofDescription
    { schemas := [{ namespaceName := "N", enumTypes := [brimful.decl, manyFlags.decl] }] }
  constructor
  · intro hall
    have hclean : brimful.errorsIn (some model) = [] := by decide +kernel
    have hgoes : brimful.GoesOn ⟨"Top", Int64.maxValue⟩ ⟨"Over", Int64.maxValue⟩ :=
      ⟨0, by decide, by decide, _, rfl, rfl⟩
    exact absurd (hall (some model) brimful hclean _ _ hgoes).1 (by decide)
  · intro hall
    have hclean : manyFlags.errorsIn (some model) = [] := by decide +kernel
    have himplicit : manyFlags.IsImplicit := by
      rintro written hwritten
      obtain ⟨i, -, rfl⟩ := List.mem_map.1 hwritten
      rfl
    have hlast : manyFlags.members[63]? = some ⟨"63", Int64.maxValue⟩ := by decide +kernel
    exact absurd (hall (some model) manyFlags hclean rfl himplicit 63 _ hlast) (by decide)

end EnumType
end ResourcePaths
