import ResourcePaths.Binding.Key
import ResourcePaths.Model.Annotation
import ResourcePaths.Proofs.Literal.Numbers
import ResourcePaths.Proofs.Literal.Printing

/-!
# Literals and constants

Guids, dates, times and instants are cut out of a literal by their shape and read by the reader that
constants have, so that the constant of the same text has the same value; so have booleans, and
integers without a suffix, which no constant has.  What stands between the quotes of a duration is
looked at by the key check only, and that asks what the constant of this text asks.
-/

namespace ResourcePaths
namespace Literal

open Declared (ConstantKind)

/-- The constant that writes what a literal writes, where its kind has a form among literals. -/
def constant? : Literal → Option (ConstantKind × ConstantValue)
  | boolean value => some (ConstantKind.boolean, ConstantValue.boolean value)
  | integer value => some (ConstantKind.integer, ConstantValue.integer value)
  | guid value => some (ConstantKind.guid, ConstantValue.guid value)
  | date value => some (ConstantKind.date, ConstantValue.date value)
  | dateTimeOffset value => some (ConstantKind.dateTimeOffset, ConstantValue.dateTimeOffset value)
  | timeOfDay value => some (ConstantKind.timeOfDay, ConstantValue.timeOfDay value)
  | null | decimal _ | string _ | duration _ | enum _ _ => none

/-! ### Texts that are cut out -/

section Cutting

variable {text taken back : List Char}

theorem guidText_eq_some (h : guidText text = some (taken, back)) : text = taken ++ back := by
  simp only [guidText, Reader.bind_eq_some_iff, Reader.char_eq_some_iff, Reader.pure_eq_some_iff] at h
  obtain ⟨_, _, hfirst, _, _, ⟨rfl, -⟩, _, _, hsecond, _, _, ⟨rfl, -⟩, _, _, hthird, _, _, ⟨rfl, -⟩,
    _, _, hfourth, _, _, ⟨rfl, -⟩, _, _, hfifth, rfl, rfl⟩ := h
  rw [Reader.exactly_eq_some hfirst, Reader.exactly_eq_some hsecond, Reader.exactly_eq_some hthird,
    Reader.exactly_eq_some hfourth, Reader.exactly_eq_some hfifth]
  simp

theorem dateText_eq_some (h : dateText text = some (taken, back)) : text = taken ++ back := by
  simp only [dateText, Reader.bind_eq_some_iff, Reader.char_eq_some_iff, Reader.pure_eq_some_iff] at h
  obtain ⟨_, _, hyear, _, _, ⟨rfl, -⟩, _, _, hmonth, _, _, ⟨rfl, -⟩, _, _, hday, rfl, rfl⟩ := h
  rw [Reader.exactly_eq_some hyear, Reader.exactly_eq_some hmonth, Reader.exactly_eq_some hday]
  simp

/-- What need not be there is cut out as nothing. -/
theorem maybe_eq_some {reader : Reader (List Char)} {found : Option (List Char)}
    (hreader : ∀ taken back, reader text = some (taken, back) → text = taken ++ back)
    (h : Reader.maybe reader text = some (found, back)) : text = found.getD [] ++ back := by
  rcases Reader.maybe_eq_some_iff.1 h with ⟨taken, rfl, hread⟩ | ⟨rfl, rfl, -⟩
  · exact hreader taken back hread
  · rfl

theorem fractionText_eq_some (h : fractionText text = some (taken, back)) : text = taken ++ back := by
  simp only [fractionText, Reader.bind_eq_some_iff, Reader.char_eq_some_iff, Reader.many1_eq_some_iff,
    Reader.pure_eq_some_iff] at h
  obtain ⟨_, _, ⟨rfl, -⟩, _, _, ⟨rfl, -⟩, rfl, rfl⟩ := h
  rfl

theorem secondText_eq_some (h : secondText text = some (taken, back)) : text = taken ++ back := by
  simp only [secondText, Reader.bind_eq_some_iff, Reader.char_eq_some_iff, Reader.pure_eq_some_iff] at h
  obtain ⟨_, _, ⟨rfl, -⟩, _, _, hsecond, _, _, hfraction, rfl, rfl⟩ := h
  rw [Reader.exactly_eq_some hsecond, maybe_eq_some (fun _ _ => fractionText_eq_some) hfraction]
  simp

theorem timeText_eq_some (h : timeText text = some (taken, back)) : text = taken ++ back := by
  simp only [timeText, Reader.bind_eq_some_iff, Reader.char_eq_some_iff, Reader.pure_eq_some_iff] at h
  obtain ⟨_, _, hhour, _, _, ⟨rfl, -⟩, _, _, hminute, _, _, hsecond, rfl, rfl⟩ := h
  rw [Reader.exactly_eq_some hhour, Reader.exactly_eq_some hminute,
    maybe_eq_some (fun _ _ => secondText_eq_some) hsecond]
  simp

theorem offsetText_eq_some (h : offsetText text = some (taken, back)) : text = taken ++ back := by
  rcases Reader.or_eq_some h with h | h
  · simp only [Reader.bind_eq_some_iff, Reader.char_eq_some_iff, Reader.pure_eq_some_iff] at h
    obtain ⟨_, _, ⟨rfl, rfl⟩, rfl, rfl⟩ := h
    rfl
  · simp only [Reader.bind_eq_some_iff, Reader.satisfying_eq_some_iff, Reader.char_eq_some_iff,
      Reader.pure_eq_some_iff] at h
    obtain ⟨_, _, ⟨rfl, -⟩, _, _, hhours, _, _, ⟨rfl, -⟩, _, _, hminutes, rfl, rfl⟩ := h
    rw [Reader.exactly_eq_some hhours, Reader.exactly_eq_some hminutes]
    simp

theorem instantText_eq_some (h : instantText text = some (taken, back)) : text = taken ++ back := by
  simp only [instantText, Reader.bind_eq_some_iff, Reader.char_eq_some_iff,
    Reader.pure_eq_some_iff] at h
  obtain ⟨_, _, hdate, _, _, ⟨rfl, -⟩, _, _, htime, _, _, hoffset, rfl, rfl⟩ := h
  rw [dateText_eq_some hdate, timeText_eq_some htime, offsetText_eq_some hoffset]
  simp

end Cutting

/-! ### One form after the other -/

section Forms

variable {text : List Char} {literal : Literal}

theorem exists_form_of_ofText? {text : String} (h : ofText? text = some literal) :
    ∃ form ∈ forms, form text.toList = some (literal, []) :=
  Reader.exists_mem_of_foldr_or (Reader.whole_eq_some_iff.1 h)

/-- The constant of a text has the value of the literal of this text. -/
def AgreesOn (text : List Char) (literal : Literal) : Prop :=
  ∀ kind value, literal.constant? = some (kind, value) →
    (kind = .integer → isSuffixed text = false) →
    ConstantValue.ofText? kind (String.ofList text) = some value

theorem agreesOn_booleanForm (h : booleanForm text = some (literal, [])) :
    AgreesOn text literal := by
  rintro kind value hconstant -
  rcases Reader.or_eq_some h with h | h
  all_goals
    simp only [Reader.bind_eq_some_iff, Reader.pure_eq_some_iff] at h
    obtain ⟨_, _, hword, rfl, rfl⟩ := h
    rw [Reader.word_eq_some_iff.1 hword]
    obtain ⟨rfl, rfl⟩ := Prod.mk.inj (Option.some.inj hconstant)
    decide

/-- A form that cuts a text out and hands it to the reader of constants. -/
theorem agreesOn_of_cut {β : Type} {cut : Reader (List Char)} {read : List Char → Option β}
    {write : β → Literal} {wrap : β → ConstantValue} {kind : ConstantKind}
    (hcut : ∀ {taken back}, cut text = some (taken, back) → text = taken ++ back)
    (hconstant : ∀ value, (write value).constant? = some (kind, wrap value))
    (hread : ∀ taken, ConstantValue.ofText? kind (String.ofList taken) = (read taken).map wrap)
    (h : cut.filterMap (fun taken => (read taken).map write) text = some (literal, [])) :
    AgreesOn text literal := by
  obtain ⟨taken, htaken, hfound⟩ := Reader.filterMap_eq_some_iff.1 h
  obtain ⟨value, hvalue, rfl⟩ := Option.map_eq_some_iff.1 hfound
  -- Nothing is left behind what was cut out, so that it is the text itself.
  have htext : text = taken := by simpa using hcut htaken
  rintro found result hresult -
  rw [hconstant] at hresult
  obtain ⟨rfl, rfl⟩ := Prod.mk.inj (Option.some.inj hresult)
  rw [htext, hread, hvalue, Option.map_some]

theorem agreesOn_numberForm (h : numberForm text = some (literal, [])) : AgreesOn text literal := by
  obtain ⟨parts, hparts, hvalue⟩ := Reader.filterMap_eq_some_iff.1 h
  obtain ⟨number, htext, rfl⟩ := numberParts_eq_some hparts
  rw [List.append_nil] at htext
  subst htext
  rcases NumberText.value?_eq_some hvalue with ⟨word, rfl⟩ | rfl
  · rintro _ _ ⟨⟩ hplain
    -- With a suffix the constant would not be read, though the literal is.
    obtain ⟨hfraction, hexponent, hword⟩ := NumberText.value?_eq_integer hvalue
    have hsuffix := NumberText.suffix_eq_none (hplain rfl)
    have hread : Integer.wordOfText? number.write = some word := by
      rw [Integer.wordOfText?, number.integer_ofText?_write hfraction hexponent hsuffix,
        Option.bind_some, hword]
    simp [ConstantValue.ofText?, hread]
  · rintro _ _ ⟨⟩

/-- A form whose literals no constant has. -/
theorem agreesOn_of_gives {form : Reader Literal}
    (hgives : form.Gives fun found => found.constant? = none)
    (h : form text = some (literal, [])) : AgreesOn text literal := by
  intro kind value hconstant
  rw [hgives text literal [] h] at hconstant
  contradiction

theorem agreesOn_of_form {form : Reader Literal} (hmem : form ∈ forms)
    (h : form text = some (literal, [])) : AgreesOn text literal := by
  simp only [forms, List.mem_cons, List.not_mem_nil, or_false] at hmem
  rcases hmem with rfl | rfl | rfl | rfl | rfl | rfl | rfl | rfl | rfl | rfl
  · exact agreesOn_of_gives (.bind fun _ => .pure rfl) h
  · exact agreesOn_booleanForm h
  · exact agreesOn_of_gives (.bind fun _ => .bind fun _ => .pure rfl) h
  · exact agreesOn_of_gives (.bind fun _ => .pure rfl) h
  · exact agreesOn_of_gives (.bind fun _ => .bind fun _ => .pure rfl) h
  · exact agreesOn_of_cut guidText_eq_some (fun _ => rfl) (by simp [ConstantValue.ofText?]) h
  · exact agreesOn_of_cut instantText_eq_some (fun _ => rfl) (by simp [ConstantValue.ofText?]) h
  · exact agreesOn_of_cut dateText_eq_some (fun _ => rfl) (by simp [ConstantValue.ofText?]) h
  · exact agreesOn_of_cut timeText_eq_some (fun _ => rfl) (by simp [ConstantValue.ofText?]) h
  · exact agreesOn_numberForm h

end Forms

/-! ### Durations -/

theorem double_of_not_mem {text : List Char} (h : '\'' ∉ text) : Quoted.double text = text := by
  induction text with
  | nil => rfl
  | cons c text ih =>
      obtain ⟨hc, htext⟩ := List.ne_and_not_mem_of_not_mem_cons h
      rw [Quoted.double, if_neg (Ne.symm hc), ih htext]

/-- Any text without quotes stands between the quotes of a duration. -/
theorem ofText?_duration_of_not_mem {body : String} (h : '\'' ∉ body.toList) :
    ofText? ("duration'" ++ body ++ "'") = some (duration body) := by
  have htext : "duration'" ++ body ++ "'" = String.ofList ("duration".toList ++ quote body) := by
    rw [quote, Quoted.write, double_of_not_mem h]
    apply String.toList_inj.1
    simp
  rw [htext, ofText?_duration]

theorem errors_constant_eq_nil_iff {kind : ConstantKind} {text : String}
    {location : Declared.Location} :
    (⟨kind, text, location⟩ : Declared.Constant).errors = [] ↔
      (ConstantValue.ofText? kind text).isSome = true := by
  rw [Declared.Constant.errors, Declared.Constant.resolved]
  cases ConstantValue.ofText? kind text with
  | none => simp
  | some value => simp [Resolved.clean]

/-- Values of a type whose constants are durations are asked for as values of the primitive type. -/
theorem fits_of_constantKind {model : Model} {ignoreCase : Bool} {type : ModelType}
    (h : Term.constantKind type = .duration) (literal : Literal) :
    model.fits ignoreCase type literal = Primitive.duration.accepts literal := by
  cases type with
  | primitive primitive => cases primitive <;> first | rfl | contradiction
  | definition definition =>
      cases hunderlying : definition.underlyingType? with
      | none => simp [Term.constantKind, hunderlying] at h
      | some primitive =>
          rw [Term.constantKind, hunderlying] at h
          rw [Model.fits, hunderlying, Option.any_some]
          cases primitive <;> first | rfl | contradiction
  | _ => contradiction

/-- The key check asks of what stands between the quotes of a duration what the constant asks of
its text. -/
theorem fits_duration_iff {model : Model} {ignoreCase : Bool} {type : ModelType} {body : String}
    {location : Declared.Location} (h : Term.constantKind type = .duration) :
    model.fits ignoreCase type (duration body) = true ↔
      (⟨.duration, body, location⟩ : Declared.Constant).errors = [] := by
  rw [fits_of_constantKind h, errors_constant_eq_nil_iff]
  simp [Primitive.accepts, ConstantValue.ofText?]

/-- The constant of the text of a literal has the value of the literal, for each kind that both
have; an integer has no suffix there.  A text without quotes is taken as that of a duration, and
fits the type of a key property where the constant of this text has no problem. -/
theorem ofText?_constant :
    (∀ text literal kind value, ofText? text = some literal →
        literal.constant? = some (kind, value) →
        (kind = .integer → isSuffixed text.toList = false) →
        ConstantValue.ofText? kind text = some value) ∧
      ∀ body : String, '\'' ∉ body.toList →
        ofText? ("duration'" ++ body ++ "'") = some (duration body) ∧
          ∀ (model : Model) (ignoreCase : Bool) (type : ModelType) (location : Declared.Location),
            Term.constantKind type = .duration →
              (model.fits ignoreCase type (duration body) = true ↔
                (⟨.duration, body, location⟩ : Declared.Constant).errors = []) := by
  refine ⟨fun text literal kind value hliteral hconstant hplain => ?_, fun body hbody => ?_⟩
  · obtain ⟨form, hmem, hform⟩ := exists_form_of_ofText? hliteral
    have hagrees := agreesOn_of_form hmem hform kind value hconstant hplain
    rwa [String.ofList_toList] at hagrees
  · refine ⟨ofText?_duration_of_not_mem hbody, fun model ignoreCase type location htype => ?_⟩
    exact fits_duration_iff htype

/-- An integer with a sign and zeroes in front, a leap second with a fraction, and the body of a
duration that is none, at universal time. -/
theorem ofText?_constant_limits :
    ofText? "+007" = some (integer 7) ∧ isSuffixed "+007".toList = false ∧
      ConstantValue.ofText? .integer "+007" = some (.integer 7) ∧
      ofText? "2016-12-31T23:59:60.25+05:30" =
        some (dateTimeOffset ⟨1483208999, 1250000000, 19800⟩) ∧
      ConstantValue.ofText? .dateTimeOffset "2016-12-31T23:59:60.25+05:30" =
        some (.dateTimeOffset ⟨1483208999, 1250000000, 19800⟩) ∧
      '\'' ∉ "P1Y".toList ∧ ofText? "duration'P1Y'" = some (duration "P1Y") ∧
      Term.constantKind (.primitive .duration) = .duration ∧
      ((Model.ofDescription {}).fits false (.primitive .duration) (duration "P1Y") = true ↔
        (⟨.duration, "P1Y", {}⟩ : Declared.Constant).errors = []) := by
  have hinteger : ofText? "+007" = some (integer 7) := by decide +kernel
  have hinstant : ofText? "2016-12-31T23:59:60.25+05:30" =
      some (dateTimeOffset ⟨1483208999, 1250000000, 19800⟩) := by decide +kernel
  have hplain : isSuffixed "+007".toList = false := by decide
  have hquote : '\'' ∉ "P1Y".toList := by decide
  refine ⟨hinteger, hplain, ?_, hinstant, ?_, hquote, ?_, rfl, ?_⟩
  · exact ofText?_constant.1 _ _ _ _ hinteger rfl fun _ => hplain
  · exact ofText?_constant.1 _ _ _ _ hinstant rfl (by simp)
  · exact (ofText?_constant.2 "P1Y" hquote).1
  · exact (ofText?_constant.2 "P1Y" hquote).2 _ _ _ _ rfl

end Literal
end ResourcePaths
