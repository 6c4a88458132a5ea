import ResourcePaths.Proofs.Calendar.Days
import ResourcePaths.Proofs.Guid
import ResourcePaths.Proofs.Literal.Reading

/-!
# Literals in their canonical form

Booleans, integers, strings, guids, durations, dates, times of day and instants have a canonical
text (`Prints`).  Reading that text gives back the literal: none of the forms that are tried before
its own takes anything from it.  An integer without a word is not read at all.
-/

namespace ResourcePaths
namespace Literal

open Text (padded isDigit_padded)

/-! ### Guids -/

theorem exactly_digits (guid : Guid) {start count : Nat} (hend : start + count ≤ 32)
    (rest : List Char) :
    Reader.exactly count Text.isHex ((guid.digits.drop start).take count ++ rest) =
      some ((guid.digits.drop start).take count, rest) := by
  refine Reader.exactly_append ?_ (fun c hc => ?_) rest
  · rw [List.length_take, List.length_drop, guid.length_digits]
    omega
  · exact Guid.isHex_of_mem_digits (List.mem_of_mem_drop (List.mem_of_mem_take hc))

theorem write_guid_eq (guid : Guid) :
    guid.write = (guid.digits.drop 0).take 8 ++ '-' :: ((guid.digits.drop 8).take 4 ++
      '-' :: ((guid.digits.drop 12).take 4 ++ '-' :: ((guid.digits.drop 16).take 4 ++
        '-' :: ((guid.digits.drop 20).take 12 ++ [])))) := by
  have hlast : (guid.digits.drop 20).take 12 = guid.digits.drop 20 := by
    rw [List.take_of_length_le]
    rw [List.length_drop, guid.length_digits]
  simp only [hlast, List.append_nil, List.drop_zero]
  simp only [Guid.write, Guid.groups, Guid.addHyphens, List.drop_drop]

theorem guidText_write (guid : Guid) : guidText guid.write = some (guid.write, []) := by
  rw [write_guid_eq, guidText, Reader.bind_of_eq_some (exactly_digits guid (by decide) _),
    Reader.bind_of_eq_some (Reader.char_cons '-' _),
    Reader.bind_of_eq_some (exactly_digits guid (by decide) _),
    Reader.bind_of_eq_some (Reader.char_cons '-' _),
    Reader.bind_of_eq_some (exactly_digits guid (by decide) _),
    Reader.bind_of_eq_some (Reader.char_cons '-' _),
    Reader.bind_of_eq_some (exactly_digits guid (by decide) _),
    Reader.bind_of_eq_some (Reader.char_cons '-' _),
    Reader.bind_of_eq_some (exactly_digits guid (by decide) [])]
  simp only [Reader.pure_apply, List.append_assoc, List.cons_append, List.append_nil]

theorem ofText?_guid (value : Guid) : ofText? (String.ofList value.write) = some (guid value) := by
  have hnot (c : Char) (hc : Text.isHex c = false ∧ c ≠ '-') : c ∉ value.write := by
    intro h
    rcases Guid.isHex_of_mem_write h with hhex | hhyphen
    · rw [hc.1] at hhex
      contradiction
    · exact hc.2 hhyphen
  have hname : Reader.qualifiedName value.write = none :=
    Reader.qualifiedName_eq_none (hnot '.' (by decide))
  have hfront : ∀ form ∈ wordForms, form value.write = none :=
    wordForms_eq_none (hnot 's' (by decide)) (hnot 'u' (by decide)) (hnot '\'' (by decide)) hname
  have hform : guidForm value.write = some (guid value, []) :=
    Reader.filterMap_of_eq_some (guidText_write value) (by rw [Guid.ofText?_write, Option.map_some])
  exact ofText?_of_form (by rfl) hfront hform

/-! ### Booleans and durations -/

theorem ofText?_boolean (value : Bool) : ofText? (toString value) = some (boolean value) := by
  cases value with
  | true => decide
  | false => decide

theorem ofText?_duration (text : String) :
    ofText? (String.ofList ("duration".toList ++ quote text)) = some (duration text) := by
  have hfront : ∀ form ∈ [nullForm, booleanForm], form ("duration".toList ++ quote text) = none := by
    simp only [List.forall_mem_cons, List.not_mem_nil, IsEmpty.forall_iff, implies_true, and_true]
    exact ⟨rfl, rfl⟩
  have hform : durationForm ("duration".toList ++ quote text) = some (duration text, []) := by
    rw [durationForm, Reader.bind_of_eq_some (Reader.word_append _ _),
      Reader.bind_of_eq_some (quoted_quote text)]
    rfl
  exact ofText?_of_form (by rfl) hfront hform

/-! ### Dates and times -/

theorem dateText_write (date : Date) (rest : List Char) :
    dateText (date.write ++ rest) = some (date.write, rest) := by
  rw [Date.write, List.append_assoc, List.append_assoc, List.cons_append, List.cons_append, dateText,
    Reader.bind_of_eq_some (Reader.exactly_append (Text.length_padded 4 _) (isDigit_padded 4 _) _),
    Reader.bind_of_eq_some (Reader.char_cons '-' _),
    Reader.bind_of_eq_some (Reader.exactly_append (Text.length_padded 2 _) (isDigit_padded 2 _) _),
    Reader.bind_of_eq_some (Reader.char_cons '-' _),
    Reader.bind_of_eq_some (Reader.exactly_append (Text.length_padded 2 _) (isDigit_padded 2 _) _)]
  simp only [Reader.pure_apply, List.append_assoc, List.cons_append]

theorem timeText_write (time : TimeOfDay) {rest : List Char}
    (hrest : ∀ c ∈ rest.head?, c.isDigit = false) :
    timeText (time.write ++ rest) = some (time.write, rest) := by
  have hne : padded 9 time.nanos ≠ [] := List.ne_nil_of_length_eq_add_one (Text.length_padded 9 _)
  have hfraction : fractionText ('.' :: padded 9 time.nanos ++ rest) =
      some ('.' :: padded 9 time.nanos, rest) := by
    rw [fractionText, List.cons_append, Reader.bind_of_eq_some (Reader.char_cons '.' _),
      Reader.bind_of_eq_some (Reader.many1_append hne (isDigit_padded 9 _) hrest)]
    rfl
  have hsecond : secondText (':' :: padded 2 time.second ++ ('.' :: padded 9 time.nanos ++ rest)) =
      some (':' :: padded 2 time.second ++ '.' :: padded 9 time.nanos, rest) := by
    rw [secondText, List.cons_append, Reader.bind_of_eq_some (Reader.char_cons ':' _),
      Reader.bind_of_eq_some (Reader.exactly_append (Text.length_padded 2 _) (isDigit_padded 2 _) _),
      Reader.bind_of_eq_some (Reader.maybe_of_eq_some hfraction)]
    rfl
  have htext : time.write ++ rest = padded 2 time.hour ++ ':' :: (padded 2 time.minute ++
      (':' :: padded 2 time.second ++ ('.' :: padded 9 time.nanos ++ rest))) := by
    simp only [TimeOfDay.write, List.append_assoc, List.cons_append]
  rw [htext, timeText,
    Reader.bind_of_eq_some (Reader.exactly_append (Text.length_padded 2 _) (isDigit_padded 2 _) _),
    Reader.bind_of_eq_some (Reader.char_cons ':' _),
    Reader.bind_of_eq_some (Reader.exactly_append (Text.length_padded 2 _) (isDigit_padded 2 _) _),
    Reader.bind_of_eq_some (Reader.maybe_of_eq_some hsecond)]
  simp only [Reader.pure_apply, TimeOfDay.write, Option.getD_some, List.append_assoc,
    List.cons_append]

theorem offsetText_write (instant : Instant) :
    offsetText instant.writeOffset = some (instant.writeOffset, []) := by
  have hhyphen (sign : Char) (hsign : (sign = '+' || sign = '-') = true) :
      offsetText (sign :: padded 2 instant.offsetHour ++ ':' :: padded 2 instant.offsetMinute) =
        some (sign :: padded 2 instant.offsetHour ++ ':' :: padded 2 instant.offsetMinute, []) := by
    have hletter : sign ≠ 'Z' := by
      rintro rfl
      contradiction
    have hlast : Reader.exactly 2 Char.isDigit (padded 2 instant.offsetMinute) =
        some (padded 2 instant.offsetMinute, []) := by
      simpa using Reader.exactly_append (Text.length_padded 2 instant.offsetMinute)
        (isDigit_padded 2 _) []
    rw [offsetText, List.cons_append,
      Reader.or_of_eq_none (Reader.bind_of_eq_none (Reader.char_eq_none (by simpa using hletter)) _),
      Reader.bind_of_eq_some (Reader.satisfying_cons hsign _),
      Reader.bind_of_eq_some (Reader.exactly_append (Text.length_padded 2 _) (isDigit_padded 2 _) _),
      Reader.bind_of_eq_some (Reader.char_cons ':' _), Reader.bind_of_eq_some hlast]
    rfl
  unfold Instant.writeOffset
  split
  · exact hhyphen '-' (by decide)
  · exact hhyphen '+' (by decide)

theorem instantText_write (instant : Instant) (date : Date) (time : TimeOfDay) :
    instantText (instant.write date time) = some (instant.write date time, []) := by
  rw [Instant.write, List.append_assoc, List.cons_append, instantText,
    Reader.bind_of_eq_some (dateText_write date _),
    Reader.bind_of_eq_some (Reader.char_cons 'T' _),
    Reader.bind_of_eq_some (timeText_write time instant.head?_writeOffset),
    Reader.bind_of_eq_some (offsetText_write instant)]
  simp only [Reader.pure_apply, List.append_assoc, List.cons_append]

/-! ### The forms in front of dates and times -/

/-- The characters of dates, times and offsets. -/
def isClock (c : Char) : Bool :=
  c.isDigit || ['-', '+', ':', '.', 'T'].contains c

theorem isClock_padded (width n : Nat) : ∀ c ∈ padded width n, isClock c = true := by
  intro c hc
  rw [isClock, isDigit_padded width n c hc, Bool.true_or]

theorem isClock_date (date : Date) : ∀ c ∈ date.write, isClock c = true := by
  simp only [Date.write, List.forall_mem_append, List.forall_mem_cons]
  exact ⟨⟨isClock_padded 4 _, by decide, isClock_padded 2 _⟩, by decide, isClock_padded 2 _⟩

theorem isClock_time (time : TimeOfDay) : ∀ c ∈ time.write, isClock c = true := by
  simp only [TimeOfDay.write, List.forall_mem_append, List.forall_mem_cons]
  exact ⟨⟨⟨isClock_padded 2 _, by decide, isClock_padded 2 _⟩, by decide, isClock_padded 2 _⟩,
    by decide, isClock_padded 9 _⟩

theorem isClock_offset (instant : Instant) : ∀ c ∈ instant.writeOffset, isClock c = true := by
  unfold Instant.writeOffset
  simp only [List.forall_mem_append, List.forall_mem_cons]
  refine ⟨⟨?_, isClock_padded 2 _⟩, by decide, isClock_padded 2 _⟩
  split
  · decide
  · decide

theorem isClock_instant (instant : Instant) (date : Date) (time : TimeOfDay) :
    ∀ c ∈ instant.write date time, isClock c = true := by
  simp only [Instant.write, List.forall_mem_append, List.forall_mem_cons]
  exact ⟨⟨isClock_date date, by decide, isClock_time time⟩, isClock_offset instant⟩

/-- No word stands in front of a field of digits. -/
theorem wordForms_padded {width n : Nat} {text rest : List Char} (hwidth : 0 < width)
    (htext : text = padded width n ++ rest) (hclock : ∀ c ∈ text, isClock c = true) :
    ∀ form ∈ wordForms, form text = none := by
  have hnot (c : Char) (hc : isClock c = false) : c ∉ text := by
    intro h
    rw [hclock c h] at hc
    contradiction
  have hname : Reader.qualifiedName text = none := by
    refine Reader.bind_of_eq_none (Reader.name_eq_none fun c hc => ?_) _
    rw [htext] at hc
    exact Text.startsName_of_isDigit (Text.isDigit_of_mem_head?_padded hwidth hc)
  exact wordForms_eq_none (hnot 's' (by decide)) (hnot 'u' (by decide)) (hnot '\'' (by decide)) hname

/-- A field that is too short for a guid ends in front of a mark. -/
theorem guidForm_padded {width n : Nat} {c : Char} {rest : List Char} (hwidth : width < 8)
    (hc : Text.isHex c = false) : guidForm (padded width n ++ c :: rest) = none := by
  have hlength : (padded width n).length < 8 := by rwa [Text.length_padded]
  exact Reader.filterMap_of_eq_none
    (Reader.bind_of_eq_none (Reader.exactly_eq_none hlength hc rest) _) _

theorem ofText?_date {value : Date} (hyear : value.HasShortYear) :
    ofText? (String.ofList value.write) = some (date value) := by
  have hstart : value.write = padded 4 value.year.toNat ++
      '-' :: (padded 2 value.month ++ '-' :: padded 2 value.day) := by
    simp only [Date.write, List.append_assoc, List.cons_append]
  have hread : dateText value.write = some (value.write, []) := by
    simpa using dateText_write value []
  have hguid : guidForm value.write = none := by
    rw [hstart]
    exact guidForm_padded (by decide) (by decide)
  have hinstant : instantForm value.write = none := by
    refine Reader.filterMap_of_eq_none ?_ _
    rw [instantText, Reader.bind_of_eq_some hread]
    rfl
  have hfront : ∀ form ∈ wordForms ++ [guidForm, instantForm], form value.write = none := by
    simp only [List.forall_mem_append, List.forall_mem_cons]
    exact ⟨wordForms_padded (by decide) hstart (isClock_date value), hguid, hinstant,
      List.forall_mem_nil _⟩
  have hform : dateForm value.write = some (date value, []) :=
    Reader.filterMap_of_eq_some hread (by rw [Date.ofText?_write hyear, Option.map_some])
  exact ofText?_of_form (by rfl) hfront hform

theorem ofText?_timeOfDay {value : TimeOfDay} (hnanos : value.nanos < Calendar.nanosPerSecond) :
    ofText? (String.ofList value.write) = some (timeOfDay value) := by
  have hstart : value.write = padded 2 value.hour ++ ':' :: (padded 2 value.minute ++
      ':' :: (padded 2 value.second ++ '.' :: padded 9 value.nanos)) := by
    simp only [TimeOfDay.write, List.append_assoc, List.cons_append]
  have hread : timeText value.write = some (value.write, []) := by
    simpa using timeText_write value (show ∀ c ∈ ([] : List Char).head?, c.isDigit = false by simp)
  have hguid : guidForm value.write = none := by
    rw [hstart]
    exact guidForm_padded (by decide) (by decide)
  have hdate : dateText value.write = none := by
    have hshort : (padded 2 value.hour).length < 4 := by
      rw [Text.length_padded]
      decide
    rw [hstart]
    exact Reader.bind_of_eq_none (Reader.exactly_eq_none hshort (by decide) _) _
  have hfront : ∀ form ∈ wordForms ++ [guidForm, instantForm, dateForm], form value.write = none := by
    simp only [List.forall_mem_append, List.forall_mem_cons]
    exact ⟨wordForms_padded (by decide) hstart (isClock_time value), hguid,
      Reader.filterMap_of_eq_none (Reader.bind_of_eq_none hdate _) _,
      Reader.filterMap_of_eq_none hdate _, List.forall_mem_nil _⟩
  have hform : timeForm value.write = some (timeOfDay value, []) :=
    Reader.filterMap_of_eq_some hread (by rw [TimeOfDay.ofText?_write hnanos, Option.map_some])
  exact ofText?_of_form (by rfl) hfront hform

theorem ofText?_dateTimeOffset {value : Instant} {date : Date} {time : TimeOfDay}
    (hshows : value.Shows date time) (hyear : date.HasShortYear)
    (hnanos : time.nanos < Calendar.nanosPerSecond) (hoffset : value.HasClockOffset) :
    ofText? (String.ofList (value.write date time)) = some (dateTimeOffset value) := by
  have hguid : guidForm (value.write date time) = none := by
    rw [Instant.write_eq]
    exact guidForm_padded (by decide) (by decide)
  have hfront : ∀ form ∈ wordForms ++ [guidForm], form (value.write date time) = none := by
    simp only [List.forall_mem_append, List.forall_mem_cons]
    exact ⟨wordForms_padded (by decide) (value.write_eq date time)
      (isClock_instant value date time), hguid, List.forall_mem_nil _⟩
  have hform : instantForm (value.write date time) = some (dateTimeOffset value, []) :=
    Reader.filterMap_of_eq_some (instantText_write value date time)
      (by rw [Instant.ofText?_write hshows hyear hnanos hoffset, Option.map_some])
  exact ofText?_of_form (by rfl) hfront hform

/-! ### Canonical texts -/

/-- The canonical texts of a literal.  Dates have years of four digits, times no leap second, and
offsets whole minutes. -/
inductive Prints : String → Literal → Prop
  | boolean (value : Bool) : Prints (toString value) (.boolean value)
  | integer (value : Int64) : Prints (toString value.toInt) (.integer value)
  | long (value : Int64) : Prints (toString value.toInt ++ "L") (.integer value)
  | string (value : String) : Prints (String.ofList (quote value)) (.string value)
  | guid (value : Guid) : Prints (String.ofList value.write) (.guid value)
  | duration (text : String) :
      Prints (String.ofList ("duration".toList ++ quote text)) (.duration text)
  | date (value : Date) (hyear : value.HasShortYear) :
      Prints (String.ofList value.write) (.date value)
  | timeOfDay (value : TimeOfDay) (hnanos : value.nanos < Calendar.nanosPerSecond) :
      Prints (String.ofList value.write) (.timeOfDay value)
  | dateTimeOffset (value : Instant) (date : Date) (time : TimeOfDay)
      (hshows : value.Shows date time) (hyear : date.HasShortYear)
      (hnanos : time.nanos < Calendar.nanosPerSecond) (hoffset : value.HasClockOffset) :
      Prints (String.ofList (value.write date time)) (.dateTimeOffset value)

/-- Reading a canonical text gives back the literal, each instant of a local year of four digits
has such a text, and an integer outside the range of words is not read at all. -/
theorem ofText?_prints :
    (∀ text literal, Prints text literal → ofText? text = some literal) ∧
      (∀ instant : Instant, instant.IsCivil → ∃ text, Prints text (.dateTimeOffset instant)) ∧
      ∀ written : IntegerText, Integer.inSigned 64 written.value = false →
        ofText? (String.ofList written.write) = none := by
  refine ⟨fun text literal hprints => ?_, fun instant hcivil => ?_, fun written hrange => ?_⟩
  · cases hprints with
    | boolean value => exact ofText?_boolean value
    | integer value => rw [ofText?_toString, Integer.toWord?_toInt, Option.map_some]
    | long value => rw [ofText?_toString_long, Integer.toWord?_toInt, Option.map_some]
    | string value => exact ofText?_quote value
    | guid value => exact ofText?_guid value
    | duration text => exact ofText?_duration text
    | date value hyear => exact ofText?_date hyear
    | timeOfDay value hnanos => exact ofText?_timeOfDay hnanos
    | dateTimeOffset value date time hshows hyear hnanos hoffset =>
        exact ofText?_dateTimeOffset hshows hyear hnanos hoffset
  · obtain ⟨date, time, hyear, hnanos, hshows⟩ := hcivil.exists_shows
    exact ⟨_, .dateTimeOffset instant date time hshows hyear hnanos hcivil.offset⟩
  · rw [ofText?_integerText, Integer.toWord?_eq_none_iff.2 hrange, Option.map_none]

/-- The least word, an instant west of Greenwich whose day at universal time is the next one, and
the integer behind the greatest word. -/
theorem ofText?_prints_limits :
    Prints "-9223372036854775808" (.integer Int64.minValue) ∧
      ofText? "-9223372036854775808" = some (.integer Int64.minValue) ∧
      Instant.IsCivil ⟨253402318740, 5, -18000⟩ ∧
      (∃ text, Prints text (.dateTimeOffset ⟨253402318740, 5, -18000⟩)) ∧
      Integer.inSigned 64 9223372036854775808 = false ∧
      ofText? "9223372036854775808" = none := by
  have hleast : Prints "-9223372036854775808" (.integer Int64.minValue) := by
    have htext : toString Int64.minValue.toInt = "-9223372036854775808" := by decide
    exact htext ▸ .integer Int64.minValue
  have hcivil : Instant.IsCivil ⟨253402318740, 5, -18000⟩ :=
    ⟨⟨by decide, by decide, by decide⟩, by decide, by decide, by decide⟩
  have hlarge : ofText? "9223372036854775808" = none := by
    have hread := ofText?_prints.2.2 (.decimal 9223372036854775808 none (by simp)) (by decide)
    rwa [IntegerText.write_decimal] at hread
  exact ⟨hleast, ofText?_prints.1 _ _ hleast, hcivil, ofText?_prints.2.1 _ hcivil, by decide,
    hlarge⟩

end Literal
end ResourcePaths
