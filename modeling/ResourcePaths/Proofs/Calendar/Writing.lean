import ResourcePaths.Calendar.Instant
import ResourcePaths.Proofs.Text.Digits
import ResourcePaths.Proofs.Text.Reading

/-!
# Dates and times in full width

A date of four-digit years, a time of day without a leap second and an offset of whole minutes are
written with every field in its full width.  The readers take the fields one after the other, so
that each of them gives back the number that its field was written from.
-/

namespace ResourcePaths

open Text (padded)

/-! ### Fields -/

namespace Reader

theorem skipBlanks_of_head? {text : List Char} (h : ∀ c ∈ text.head?, Text.isBlank c = false) :
    skipBlanks text = some ((), text) := by
  cases text with
  | nil => rfl
  | cons c rest =>
      have hc : ¬Text.isBlank c = true := by simp [h c rfl]
      rw [skipBlanks, List.dropWhile_cons_of_neg hc]

end Reader

namespace Calendar

theorem field_padded {least most n : Nat} (hleast : least ≤ most) (hn : n < 10 ^ most)
    (rest : List Char) : field least most (padded most n ++ rest) = some (n, rest) := by
  rw [field, Reader.bind_of_eq_some
    (Reader.between_append hleast (Text.length_padded most n) (Text.isDigit_padded most n) rest),
    Text.natOfDigits_padded hn]
  rfl

theorem skipBlanks_padded {width : Nat} (hwidth : 0 < width) (n : Nat) (rest : List Char) :
    Reader.skipBlanks (padded width n ++ rest) = some ((), padded width n ++ rest) :=
  Reader.skipBlanks_of_head? fun _ hc =>
    Text.isBlank_of_isDigit (Text.isDigit_of_mem_head?_padded hwidth hc)

theorem looseField_padded {n : Nat} (hn : n < 10 ^ 2) (rest : List Char) :
    looseField (padded 2 n ++ rest) = some (n, rest) := by
  rw [looseField, Reader.bind_of_eq_some (skipBlanks_padded (by decide) n rest)]
  exact field_padded (by decide) hn rest

theorem looseYear_padded {n : Nat} (hn : n < 10 ^ 4) (rest : List Char) :
    looseYear (padded 4 n ++ rest) = some ((n : Int), rest) := by
  have hunsigned : Reader.satisfying (fun c => c = '+' || c = '-') (padded 4 n ++ rest) = none :=
    Reader.satisfying_eq_none fun _ hc =>
      Text.isSign_of_isDigit (Text.isDigit_of_mem_head?_padded (by decide) hc)
  rw [looseYear, Reader.bind_of_eq_some (skipBlanks_padded (by decide) n rest),
    Reader.bind_of_eq_some (Reader.maybe_of_eq_none hunsigned)]
  exact Reader.bind_of_eq_some (field_padded (by decide) hn rest) _

/-- A fraction of nine digits counts in full. -/
theorem maybeFraction_padded {n : Nat} (hn : n < 10 ^ 9) {rest : List Char}
    (hrest : ∀ c ∈ rest.head?, c.isDigit = false) :
    maybeFraction ('.' :: padded 9 n ++ rest) = some (n, rest) := by
  have hskip : Reader.many Char.isDigit rest = some ([], rest) :=
    Reader.many_append (List.forall_mem_nil _) hrest
  rw [maybeFraction, List.cons_append,
    Reader.bind_of_eq_some (Reader.maybe_of_eq_some (Reader.char_cons '.' _))]
  simp only [fraction]
  rw [Reader.bind_of_eq_some
      (Reader.between_append (by decide) (Text.length_padded 9 n) (Text.isDigit_padded 9 n) rest),
    Reader.bind_of_eq_some hskip,
    Text.natOfDigits_padded hn, Text.length_padded]
  simp

theorem isDay_iff {year : Int} {month day : Nat} :
    isDay year month day = true ↔
      firstYear ≤ year ∧ year ≤ lastYear ∧ 1 ≤ day ∧ day ≤ daysInMonth year month := by
  simp only [isDay, Bool.and_eq_true, decide_eq_true_eq, and_assoc]

theorem daysInMonth_le (year : Int) (month : Nat) : daysInMonth year month ≤ 31 := by
  unfold daysInMonth
  split
  -- The days of February depend on the year.
  case h_12 =>
    split
    · decide
    · decide
  all_goals decide

/-- Only the twelve months have days. -/
theorem month_of_daysInMonth_pos {year : Int} {month : Nat} (h : 0 < daysInMonth year month) :
    1 ≤ month ∧ month ≤ 12 := by
  unfold daysInMonth at h
  split at h
  all_goals omega

end Calendar

/-! ### Dates -/

namespace Date

/-- The years that are written in four digits. -/
structure HasShortYear (date : Date) : Prop where
  zero_le : 0 ≤ date.year
  le_last : date.year ≤ 9999

theorem month_bounds (date : Date) : 1 ≤ date.month ∧ date.month ≤ 12 := by
  obtain ⟨-, -, hfirst, hlast⟩ := Calendar.isDay_iff.1 date.isDay
  exact Calendar.month_of_daysInMonth_pos (Nat.lt_of_lt_of_le hfirst hlast)

theorem day_bounds (date : Date) : 1 ≤ date.day ∧ date.day ≤ 31 := by
  obtain ⟨-, -, hfirst, hlast⟩ := Calendar.isDay_iff.1 date.isDay
  exact ⟨hfirst, Nat.le_trans hlast (Calendar.daysInMonth_le date.year date.month)⟩

theorem ofNumbers?_self (date : Date) :
    ofNumbers? date.year date.month date.day = some date :=
  dif_pos date.isDay

/-- The date as `YYYY-MM-DD`. -/
def write (date : Date) : List Char :=
  padded 4 date.year.toNat ++ '-' :: padded 2 date.month ++ '-' :: padded 2 date.day

/-- A date of a four-digit year is read back. -/
theorem ofText?_write {date : Date} (hyear : date.HasShortYear) :
    ofText? date.write = some date := by
  obtain ⟨hfirst, hlast⟩ := hyear
  have hmonth := date.month_bounds
  have hday := date.day_bounds
  have hlastField : Calendar.looseField (padded 2 date.day) = some (date.day, []) := by
    simpa using Calendar.looseField_padded (show date.day < 10 ^ 2 by omega) []
  rw [ofText?, Reader.whole_eq_some_iff, write, List.append_assoc, List.cons_append, reader,
    Reader.bind_of_eq_some (Calendar.looseYear_padded (by omega) _),
    Reader.bind_of_eq_some (Reader.char_cons '-' _),
    Reader.bind_of_eq_some (Calendar.looseField_padded (by omega) _),
    Reader.bind_of_eq_some (Reader.char_cons '-' _),
    Reader.bind_of_eq_some hlastField, Int.toNat_of_nonneg hfirst, ofNumbers?_self]
  rfl

end Date

/-! ### Times of day -/

namespace TimeOfDay

theorem seconds_lt (time : TimeOfDay) : time.seconds < 86400 := by
  obtain ⟨⟨hseconds, -⟩, -⟩ := by
    simpa only [Calendar.isTime, Bool.and_eq_true, decide_eq_true_eq] using time.isTime
  exact hseconds

def hour (time : TimeOfDay) : Nat :=
  time.seconds / 3600

def minute (time : TimeOfDay) : Nat :=
  time.seconds / 60 % 60

def second (time : TimeOfDay) : Nat :=
  time.seconds % 60

theorem hour_lt (time : TimeOfDay) : time.hour < 24 := by
  have := time.seconds_lt
  unfold hour
  omega

theorem minute_lt (time : TimeOfDay) : time.minute < 60 :=
  Nat.mod_lt _ (by decide)

theorem second_lt (time : TimeOfDay) : time.second < 60 :=
  Nat.mod_lt _ (by decide)

theorem seconds_eq (time : TimeOfDay) :
    3600 * time.hour + 60 * time.minute + time.second = time.seconds := by
  unfold hour minute second
  omega

theorem ofCounts?_self (time : TimeOfDay) : ofCounts? time.seconds time.nanos = some time :=
  dif_pos time.isTime

theorem ofNumbers?_self {time : TimeOfDay} (hnanos : time.nanos < Calendar.nanosPerSecond) :
    ofNumbers? time.hour time.minute time.second time.nanos = some time := by
  have hsecond := time.second_lt
  rw [ofNumbers?, if_pos ⟨time.hour_lt, time.minute_lt, hsecond.le, hnanos⟩,
    if_neg hsecond.ne, seconds_eq, ofCounts?_self]

/-- The time as `HH:MM:SS.nnnnnnnnn`. -/
def write (time : TimeOfDay) : List Char :=
  padded 2 time.hour ++ ':' :: padded 2 time.minute ++ ':' :: padded 2 time.second ++
    '.' :: padded 9 time.nanos

/-- A time without a leap second is read back. -/
theorem ofText?_write {time : TimeOfDay} (hnanos : time.nanos < Calendar.nanosPerSecond) :
    ofText? time.write = some time := by
  have hhour := time.hour_lt
  have hminute := time.minute_lt
  have hsecond := time.second_lt
  have hfraction : Calendar.maybeFraction ('.' :: padded 9 time.nanos) = some (time.nanos, []) := by
    simpa using Calendar.maybeFraction_padded hnanos
      (show ∀ c ∈ ([] : List Char).head?, c.isDigit = false by simp)
  have hlong : Reader.whole longReader time.write = some time := by
    rw [Reader.whole_eq_some_iff, write, List.append_assoc, List.append_assoc, List.cons_append,
      List.cons_append, longReader,
      Reader.bind_of_eq_some (Calendar.looseField_padded (by omega) _),
      Reader.bind_of_eq_some (Reader.char_cons ':' _),
      Reader.bind_of_eq_some (Calendar.looseField_padded (by omega) _),
      Reader.bind_of_eq_some (Reader.char_cons ':' _),
      Reader.bind_of_eq_some (Calendar.looseField_padded (by omega) _),
      Reader.bind_of_eq_some hfraction, ofNumbers?_self hnanos]
    rfl
  rw [ofText?, hlong, Option.some_or]

end TimeOfDay

/-! ### Offsets -/

namespace Instant

/-- The offsets that are written in hours and minutes: of whole minutes, and below a day. -/
structure HasClockOffset (instant : Instant) : Prop where
  minutes : instant.offset % 60 = 0
  behind : -86400 < instant.offset
  ahead : instant.offset < 86400

def offsetHour (instant : Instant) : Nat :=
  instant.offset.natAbs / 3600

def offsetMinute (instant : Instant) : Nat :=
  instant.offset.natAbs / 60 % 60

theorem offsetHour_lt {instant : Instant} (hoffset : instant.HasClockOffset) :
    instant.offsetHour < 24 := by
  obtain ⟨-, hbehind, hahead⟩ := hoffset
  unfold offsetHour
  omega

theorem offsetMinute_lt (instant : Instant) : instant.offsetMinute < 60 :=
  Nat.mod_lt _ (by decide)

theorem offset_eq {instant : Instant} (hoffset : instant.HasClockOffset) :
    (if decide (instant.offset < 0) = true then
        -((instant.offsetHour : Int) * 3600 + (instant.offsetMinute : Int) * 60)
      else (instant.offsetHour : Int) * 3600 + (instant.offsetMinute : Int) * 60) =
      instant.offset := by
  obtain ⟨hwhole, -, -⟩ := hoffset
  unfold offsetHour offsetMinute
  simp only [decide_eq_true_eq]
  split
  all_goals omega

/-- The offset as `+HH:MM` or `-HH:MM`. -/
def writeOffset (instant : Instant) : List Char :=
  (if instant.offset < 0 then '-' else '+') :: padded 2 instant.offsetHour ++
    ':' :: padded 2 instant.offsetMinute

theorem head?_writeOffset (instant : Instant) :
    ∀ c ∈ instant.writeOffset.head?, c.isDigit = false := by
  unfold writeOffset
  split
  · simp
  · simp

theorem offsetSign_write (instant : Instant) :
    offsetSign instant.writeOffset = some (decide (instant.offset < 0),
      padded 2 instant.offsetHour ++ ':' :: padded 2 instant.offsetMinute) := by
  unfold writeOffset
  by_cases hneg : instant.offset < 0
  · rw [if_pos hneg, decide_eq_true hneg]
    rfl
  · rw [if_neg hneg, decide_eq_false hneg]
    rfl

/-- An offset of whole minutes below a day is read back. -/
theorem strictOffset_write {instant : Instant} (hoffset : instant.HasClockOffset) :
    strictOffset instant.writeOffset = some (instant.offset, []) := by
  have hhour := offsetHour_lt hoffset
  have hminute := instant.offsetMinute_lt
  have hlastField : Calendar.field 2 2 (padded 2 instant.offsetMinute) =
      some (instant.offsetMinute, []) := by
    simpa using Calendar.field_padded (le_refl 2) (show instant.offsetMinute < 10 ^ 2 by omega) []
  have hletter : Reader.satisfying (fun c => c = 'Z' || c = 'z') instant.writeOffset = none := by
    unfold writeOffset
    split
    · rfl
    · rfl
  have hread : offsetReader (do let _ ← Reader.char ':'; pure ()) instant.writeOffset =
      some (instant.offset, []) := by
    rw [offsetReader, Reader.bind_of_eq_some (offsetSign_write instant),
      Reader.bind_of_eq_some (Calendar.field_padded (by decide) (by omega) _),
      Reader.bind_of_eq_some (Reader.bind_of_eq_some (Reader.char_cons ':' _) _),
      Reader.bind_of_eq_some hlastField, if_neg (by omega)]
    simp only [offset_eq hoffset]
    rfl
  have hrange : ¬(decide (instant.offset < -86340) || decide (86340 < instant.offset)) = true := by
    obtain ⟨hwhole, hbehind, hahead⟩ := hoffset
    rw [Bool.or_eq_true, decide_eq_true_eq, decide_eq_true_eq]
    omega
  rw [strictOffset, Reader.or_of_eq_none (Reader.bind_of_eq_none hletter _),
    Reader.bind_of_eq_some hread, if_neg hrange]
  rfl

/-! ### Instants -/

/-- The date and the time that the clock of an instant shows. -/
structure Shows (instant : Instant) (date : Date) (time : TimeOfDay) : Prop where
  seconds : date.number * 86400 + time.seconds = instant.timestamp + instant.offset
  nanos : time.nanos = instant.nanos

end Instant

/-- The years of four digits lie well inside the calendar. -/
theorem Date.number_bounds {date : Date} (hyear : date.HasShortYear) :
    -800000 < date.number ∧ date.number < 3000000 := by
  obtain ⟨hfirst, hlast⟩ := hyear
  have hmonth := date.month_bounds
  have hday := date.day_bounds
  simp only [Date.number, Calendar.dayNumber]
  split
  all_goals omega

namespace Instant

/-- The moment at which the clock shows a date and a time is the one that they were read from. -/
theorem ofLocal?_of_shows {instant : Instant} {date : Date} {time : TimeOfDay}
    (hshows : instant.Shows date time) (hyear : date.HasShortYear)
    (hoffset : instant.HasClockOffset) : ofLocal? date time instant.offset = some instant := by
  obtain ⟨hseconds, hnanos⟩ := hshows
  obtain ⟨-, hbehind, hahead⟩ := hoffset
  obtain ⟨hlow, hhigh⟩ := Date.number_bounds hyear
  have htime := time.seconds_lt
  have htimestamp : date.number * 86400 + time.seconds - instant.offset = instant.timestamp := by
    omega
  have hfirst : Date.firstNumber = -96465292 := by decide
  have hlast : Date.lastNumber = 95026236 := by decide
  rw [ofLocal?, htimestamp, if_pos ⟨hbehind, hahead, by omega, by omega⟩, hnanos]

/-- The date and the time with the offset, as `YYYY-MM-DDTHH:MM:SS.nnnnnnnnn+HH:MM`. -/
def write (instant : Instant) (date : Date) (time : TimeOfDay) : List Char :=
  date.write ++ 'T' :: time.write ++ instant.writeOffset

/-- The text does not end in the mark of universal time. -/
theorem withOffset_write (instant : Instant) (date : Date) (time : TimeOfDay) :
    withOffset (instant.write date time) = instant.write date time := by
  have hdigit : (Nat.digitChar (instant.offsetMinute % 10)).isDigit = true := by
    rw [Nat.isDigit_digitChar]
    exact decide_eq_true (Nat.mod_lt _ (by decide))
  have hnot : Nat.digitChar (instant.offsetMinute % 10) ≠ 'Z' := by
    intro heq
    rw [heq] at hdigit
    contradiction
  have hlast : (instant.write date time).getLast? =
      some (Nat.digitChar (instant.offsetMinute % 10)) := by
    simp [write, writeOffset, padded, List.getLast?_append, List.getLast?_cons]
  rw [withOffset, Text.dropBack?, hlast, if_neg (by simp [hnot])]

theorem write_eq (instant : Instant) (date : Date) (time : TimeOfDay) :
    instant.write date time =
      padded 4 date.year.toNat ++ '-' :: (padded 2 date.month ++ '-' :: (padded 2 date.day ++
        'T' :: (padded 2 time.hour ++ ':' :: (padded 2 time.minute ++
          ':' :: (padded 2 time.second ++
            ('.' :: padded 9 time.nanos ++ instant.writeOffset)))))) := by
  simp only [write, Date.write, TimeOfDay.write, List.append_assoc, List.cons_append]

/-- What the clock shows, written with the offset, is read back. -/
theorem ofText?_write {instant : Instant} {date : Date} {time : TimeOfDay}
    (hshows : instant.Shows date time) (hyear : date.HasShortYear)
    (hnanos : time.nanos < Calendar.nanosPerSecond) (hoffset : instant.HasClockOffset) :
    ofText? (instant.write date time) = some instant := by
  have hmonth := date.month_bounds
  have hday := date.day_bounds
  have hhour := time.hour_lt
  have hminute := time.minute_lt
  have hsecond := time.second_lt
  have hread : strictReader (instant.write date time) = some (instant, []) := by
    obtain ⟨hfirst, hlast⟩ := hyear
    rw [write_eq, strictReader, Reader.bind_of_eq_some (Calendar.field_padded (by decide) (by omega) _),
      Reader.bind_of_eq_some (Reader.char_cons '-' _),
      Reader.bind_of_eq_some (Calendar.field_padded (by decide) (by omega) _),
      Reader.bind_of_eq_some (Reader.char_cons '-' _),
      Reader.bind_of_eq_some (Calendar.field_padded (by decide) (by omega) _),
      Reader.bind_of_eq_some (Reader.satisfying_cons (by decide) _),
      Reader.bind_of_eq_some (Calendar.field_padded (by decide) (by omega) _),
      Reader.bind_of_eq_some (Reader.char_cons ':' _),
      Reader.bind_of_eq_some (Calendar.field_padded (by decide) (by omega) _),
      Reader.bind_of_eq_some (Reader.char_cons ':' _),
      Reader.bind_of_eq_some (Calendar.field_padded (by decide) (by omega) _),
      Reader.bind_of_eq_some (Calendar.maybeFraction_padded hnanos instant.head?_writeOffset),
      Reader.bind_of_eq_some (strictOffset_write hoffset), Int.toNat_of_nonneg hfirst,
      Date.ofNumbers?_self, TimeOfDay.ofNumbers?_self hnanos]
    simp only [ofLocal?_of_shows hshows ⟨hfirst, hlast⟩ hoffset]
    rfl
  simp only [ofText?, withOffset_write]
  rw [Reader.whole_eq_some_iff.2 hread, Option.some_or]

end Instant
end ResourcePaths
