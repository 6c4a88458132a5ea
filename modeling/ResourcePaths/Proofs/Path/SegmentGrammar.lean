import Mathlib.Algebra.Ring.Parity
import Mathlib.Data.List.Basic
import ResourcePaths.Path.RawSegment
import ResourcePaths.Proofs.Text.Reading

/-!
# The grammar of raw segments

A raw segment is an identifier, and perhaps a list of values in parentheses.  The grammar is
stated by counting quotes: a character stands inside quotes when the number of quotes in front of
it is odd, and a value hides its separators that way.  `RawSegment.ofText` cuts the text with
readers that never go back; it accepts exactly the texts of the grammar, and the segment that it
gives is the only one that the text writes.

`Balanced` is the bridge between the two: it follows a text character by character, as a reader
does, and remembers nothing but whether a quote is open, which is the parity of the count.
-/

namespace ResourcePaths
namespace RawSegment

/-- The characters that a value has to hide between quotes. -/
def isSeparator (c : Char) : Bool :=
  c = ',' || c = '(' || c = ')' || c = '='

/-- The text of a value: not empty, with an even number of quotes, and with an odd number of them
in front of each separator. -/
structure IsValue (text : List Char) : Prop where
  ne_nil : text ≠ []
  even_quotes : Even (text.count '\'')
  hidden : ∀ front c back, text = front ++ c :: back → isSeparator c = true →
    Odd (front.count '\'')

/-- The text of an identifier: not empty and without parentheses. -/
structure IsIdentifier (text : String) : Prop where
  ne_nil : text.toList ≠ []
  no_parenthesis : ∀ c ∈ text.toList, isIdentifierChar c = true

end RawSegment

/-- The name of a value, where there is one, is a name, and its text is the text of a value. -/
structure NamedValue.IsWritable (value : NamedValue) : Prop where
  isName : ∀ name ∈ value.name, Text.isName name.toList = true
  isValue : RawSegment.IsValue value.value.toList

namespace RawSegment

open Text (isName)

/-- Whether a text writes a segment: an identifier alone, or an identifier and a list of values
between parentheses.  An empty list is written `()`. -/
inductive Writes : String → RawSegment → Prop
  | bare (identifier : String) (hidentifier : IsIdentifier identifier) :
      Writes identifier ⟨identifier, []⟩
  | listed (identifier : String) (values : List NamedValue)
      (hidentifier : IsIdentifier identifier) (hvalues : ∀ value ∈ values, value.IsWritable) :
      Writes (identifier ++ "(" ++ Text.joined "," (values.map NamedValue.render) ++ ")")
        ⟨identifier, values⟩

/-- The text without the empty list at its end, if it has one. -/
def withoutEmptyList (text : String) : String :=
  if ['(', ')'] <:+ text.toList then String.ofList text.toList.dropLast.dropLast else text

/-! ### Following quotes -/

/-- Behind a place inside or outside quotes: separators stand inside quotes only, and the text
ends outside. -/
def Balanced : Bool → List Char → Prop
  | inside, [] => inside = false
  | inside, c :: rest =>
      if c = '\'' then Balanced (!inside) rest
      else (inside = true ∨ isSeparator c = false) ∧ Balanced inside rest

theorem balanced_quote (inside : Bool) (rest : List Char) :
    Balanced inside ('\'' :: rest) ↔ Balanced (!inside) rest := by
  rw [Balanced, if_pos rfl]

theorem balanced_other {inside : Bool} {c : Char} {rest : List Char} (hc : c ≠ '\'') :
    Balanced inside (c :: rest) ↔
      (inside = true ∨ isSeparator c = false) ∧ Balanced inside rest := by
  rw [Balanced, if_neg hc]

/-- Following a text tells the parity of the quotes in front of each of its characters. -/
theorem balanced_iff (inside : Bool) (text : List Char) :
    Balanced inside text ↔
      Even (inside.toNat + text.count '\'') ∧
        ∀ front c back, text = front ++ c :: back → isSeparator c = true →
          Odd (inside.toNat + front.count '\'') := by
  induction text generalizing inside with
  | nil => cases inside <;> simp [Balanced]
  | cons c rest ih =>
      by_cases hc : c = '\''
      · subst hc
        have hflip (count : Nat) :
            ((!inside).toNat + count) % 2 = (inside.toNat + (count + 1)) % 2 := by
          cases inside <;> simp only [Bool.toNat_false, Bool.toNat_true, Bool.not_false,
            Bool.not_true] <;> omega
        rw [balanced_quote, ih]
        simp only [Nat.even_iff, Nat.odd_iff, List.count_cons_self, hflip]
        constructor
        · rintro ⟨heven, hodd⟩
          refine ⟨heven, fun front d back heq hd => ?_⟩
          cases front with
          | nil =>
              obtain ⟨rfl, -⟩ := List.cons.inj heq
              exact absurd hd (by decide)
          | cons e front =>
              obtain ⟨rfl, htail⟩ := List.cons.inj heq
              rw [List.count_cons_self]
              exact hodd front d back htail hd
        · rintro ⟨heven, hodd⟩
          refine ⟨heven, fun front d back heq hd => ?_⟩
          have := hodd ('\'' :: front) d back (by rw [heq]; rfl) hd
          rwa [List.count_cons_self] at this
      · rw [balanced_other hc, ih, List.count_cons_of_ne hc]
        constructor
        · rintro ⟨hfirst, heven, hodd⟩
          refine ⟨heven, fun front d back heq hd => ?_⟩
          cases front with
          | nil =>
              obtain ⟨rfl, -⟩ := List.cons.inj heq
              rcases hfirst with rfl | hplain
              · decide
              · rw [hd] at hplain
                contradiction
          | cons e front =>
              obtain ⟨rfl, htail⟩ := List.cons.inj heq
              rw [List.count_cons_of_ne hc]
              exact hodd front d back htail hd
        · rintro ⟨heven, hodd⟩
          refine ⟨?_, heven, fun front d back heq hd => ?_⟩
          · cases hseparator : isSeparator c with
            | false => exact .inr rfl
            | true =>
                have := hodd [] c rest rfl hseparator
                cases inside with
                | true => exact .inl rfl
                | false => exact absurd this (by decide)
          · have := hodd (c :: front) d back (by rw [heq]; rfl) hd
            rwa [List.count_cons_of_ne hc] at this

/-- A value is a text that can be followed from outside quotes to outside quotes. -/
theorem isValue_iff (text : List Char) : IsValue text ↔ text ≠ [] ∧ Balanced false text := by
  rw [balanced_iff]
  simp only [Bool.toNat_false, Nat.zero_add]
  exact ⟨fun h => ⟨h.ne_nil, h.even_quotes, h.hidden⟩, fun h => ⟨h.1, h.2.1, h.2.2⟩⟩

theorem balanced_append {inside : Bool} {front back : List Char} (hfront : Balanced inside front) :
    Balanced inside (front ++ back) ↔ Balanced false back := by
  induction front generalizing inside with
  | nil =>
      rw [show inside = false from hfront]
      rfl
  | cons c front ih =>
      by_cases hc : c = '\''
      · subst hc
        rw [List.cons_append, balanced_quote]
        exact ih ((balanced_quote inside front).1 hfront)
      · obtain ⟨hfirst, hrest⟩ := (balanced_other hc).1 hfront
        rw [List.cons_append, balanced_other hc, ih hrest]
        exact and_iff_right hfirst

/-- Quotes that are written twice leave the quotes open. -/
theorem balanced_double (text back : List Char) :
    Balanced true (Quoted.double text ++ back) ↔ Balanced true back := by
  induction text with
  | nil => rfl
  | cons c text ih =>
      by_cases hc : c = '\''
      · rw [Quoted.double, if_pos hc, List.cons_append, List.cons_append, balanced_quote,
          balanced_quote]
        exact ih
      · rw [Quoted.double, if_neg hc, List.cons_append, balanced_other hc, ih]
        exact and_iff_right (.inl rfl)

theorem balanced_write (text : List Char) : Balanced false (Quoted.write text) := by
  rw [Quoted.write, List.cons_append, balanced_quote, Bool.not_false, balanced_double,
    balanced_quote]
  rfl

theorem balanced_of_all {text : List Char} (h : ∀ c ∈ text, isDelimiter c = false) :
    Balanced false text := by
  induction text with
  | nil => rfl
  | cons c rest ih =>
      have hc : isDelimiter c = false := h c List.mem_cons_self
      simp only [isDelimiter, Bool.or_eq_false_iff, decide_eq_false_iff_not] at hc
      rw [balanced_other hc.1.1.1.1]
      refine ⟨.inr ?_, ih fun d hd => h d (List.mem_cons_of_mem c hd)⟩
      simp [isSeparator, hc]

/-! ### Quoted pieces -/

/-- A quoted text ends at the first quote that no further quote follows. -/
theorem body?_eq_some_iff {text found back : List Char} :
    Quoted.body? text = some (found, back) ↔
      text = Quoted.double found ++ '\'' :: back ∧ back.head? ≠ some '\'' := by
  constructor
  · intro h
    fun_induction Quoted.body? text generalizing found back with
    | case1 => simp at h
    | case2 rest ih =>
        obtain ⟨⟨inner, outer⟩, hinner, heq⟩ := Option.map_eq_some_iff.1 h
        obtain ⟨rfl, rfl⟩ := Prod.mk.inj heq
        obtain ⟨rfl, hback⟩ := ih hinner
        exact ⟨by simp [Quoted.double], hback⟩
    | case3 rest hsingle =>
        obtain ⟨rfl, rfl⟩ := Prod.mk.inj (Option.some.inj h)
        refine ⟨rfl, fun hhead => ?_⟩
        cases rest with
        | nil => simp at hhead
        | cons c rest =>
            obtain rfl : c = '\'' := by simpa using hhead
            exact hsingle rest rfl rfl
    | case4 c rest _ hc ih =>
        obtain ⟨⟨inner, outer⟩, hinner, heq⟩ := Option.map_eq_some_iff.1 h
        obtain ⟨rfl, rfl⟩ := Prod.mk.inj heq
        obtain ⟨rfl, hback⟩ := ih hinner
        exact ⟨by simp [Quoted.double, hc], hback⟩
  · rintro ⟨rfl, hback⟩
    exact Quoted.body?_double found hback

theorem read?_eq_some_iff {text found back : List Char} :
    Quoted.read? text = some (found, back) ↔
      text = Quoted.write found ++ back ∧ back.head? ≠ some '\'' := by
  constructor
  · intro h
    cases text with
    | nil => simp [Quoted.read?] at h
    | cons c rest =>
        by_cases hc : c = '\''
        · subst hc
          obtain ⟨rfl, hback⟩ := body?_eq_some_iff.1 h
          exact ⟨by simp [Quoted.write], hback⟩
        · rw [Quoted.read?] at h
          · contradiction
          · rintro _ heq
            exact hc (List.cons.inj heq).1
  · rintro ⟨rfl, hback⟩
    exact Quoted.read?_write found hback

theorem quotedPiece_eq_some_iff {text piece back : List Char} :
    quotedPiece text = some (piece, back) ↔
      ∃ found, piece = Quoted.write found ∧ text = piece ++ back ∧ back.head? ≠ some '\'' := by
  rw [quotedPiece, Reader.bind_eq_some_iff]
  constructor
  · rintro ⟨found, mid, hread, hpure⟩
    obtain ⟨rfl, rfl⟩ := Reader.pure_eq_some_iff.1 hpure
    obtain ⟨htext, hback⟩ := read?_eq_some_iff.1 hread
    exact ⟨found, rfl, htext, hback⟩
  · rintro ⟨found, rfl, rfl, hback⟩
    exact ⟨found, back, read?_eq_some_iff.2 ⟨rfl, hback⟩, rfl⟩

theorem quotedPiece_eq_none {text : List Char} (h : text.head? ≠ some '\'') :
    quotedPiece text = none := by
  cases hpiece : quotedPiece text with
  | none => rfl
  | some found =>
      obtain ⟨piece, back⟩ := found
      obtain ⟨found, rfl, rfl, -⟩ := quotedPiece_eq_some_iff.1 hpiece
      exact absurd rfl h

/-! ### Values -/

/-- One piece of a value. -/
def pieceReader : Reader (List Char) :=
  Reader.or quotedPiece (Reader.many1 fun c => !isDelimiter c)

theorem isDelimiter_of_isSeparator {c : Char} (h : isSeparator c = true) :
    isDelimiter c = true := by
  simp only [isSeparator, isDelimiter, Bool.or_eq_true] at *
  rcases h with ((h | h) | h) | h <;> simp [h]

theorem pieceReader_sound {text piece back : List Char}
    (h : pieceReader text = some (piece, back)) :
    text = piece ++ back ∧ piece ≠ [] ∧ Balanced false piece := by
  rw [pieceReader, Reader.or] at h
  split at h
  · rename_i found hfound
    obtain rfl := Option.some.inj h
    obtain ⟨inner, rfl, htext, -⟩ := quotedPiece_eq_some_iff.1 hfound
    exact ⟨htext, by simp [Quoted.write], balanced_write inner⟩
  · obtain ⟨htext, hne, hall, -⟩ := Reader.many1_eq_some_iff.1 h
    exact ⟨htext, hne, balanced_of_all fun c hc => by simpa using hall c hc⟩

theorem pieceReader_shorter (text piece back : List Char)
    (h : pieceReader text = some (piece, back)) : back.length < text.length := by
  obtain ⟨rfl, hne, -⟩ := pieceReader_sound h
  have := List.length_pos_iff.2 hne
  simp only [List.length_append]
  omega

/-- No piece starts with a separator. -/
theorem pieceReader_eq_none {text : List Char} (h : ∀ c ∈ text.head?, isSeparator c = true) :
    pieceReader text = none := by
  have hquote : text.head? ≠ some '\'' := fun hhead => by
    have := h _ hhead
    contradiction
  rw [pieceReader, Reader.or, quotedPiece_eq_none hquote]
  exact Reader.many1_eq_none fun c hc => by simp [isDelimiter_of_isSeparator (h c hc)]

theorem balanced_flatten_of_repeats {text back : List Char} {pieces : List (List Char)}
    (h : Reader.Repeats pieceReader text pieces back) :
    text = pieces.flatten ++ back ∧ Balanced false pieces.flatten := by
  induction h with
  | nil text => exact ⟨rfl, rfl⟩
  | cons hfirst _ ih =>
      obtain ⟨rfl, -, hpiece⟩ := pieceReader_sound hfirst
      obtain ⟨rfl, hpieces⟩ := ih
      refine ⟨by rw [List.flatten_cons, List.append_assoc], ?_⟩
      rw [List.flatten_cons, balanced_append hpiece]
      exact hpieces

/-- A text that ends outside quotes, followed from inside, has a closing quote. -/
theorem exists_write_of_balanced {text : List Char} (h : Balanced true text) :
    ∃ found back, text = Quoted.double found ++ '\'' :: back ∧ back.head? ≠ some '\'' ∧
      Balanced false back := by
  fun_induction Quoted.body? text with
  | case1 => exact absurd (show true = false from h) (by decide)
  | case2 rest ih =>
      rw [balanced_quote, balanced_quote] at h
      obtain ⟨found, back, rfl, hback, hbalanced⟩ := ih h
      exact ⟨'\'' :: found, back, by simp [Quoted.double], hback, hbalanced⟩
  | case3 rest hsingle =>
      refine ⟨[], rest, rfl, fun hhead => ?_, (balanced_quote true rest).1 h⟩
      cases rest with
      | nil => simp at hhead
      | cons c rest =>
          obtain rfl : c = '\'' := by simpa using hhead
          exact hsingle rest rfl rfl
  | case4 c rest _ hc ih =>
      obtain ⟨found, back, rfl, hback, hbalanced⟩ := ih ((balanced_other hc).1 h).2
      exact ⟨c :: found, back, by simp [Quoted.double, hc], hback, hbalanced⟩

/-- Every text that ends outside quotes is read piece by piece, up to a separator or to the end
of the text behind it. -/
theorem repeats_of_balanced {text back : List Char} (h : Balanced false text)
    (hback : ∀ c ∈ back.head?, isSeparator c = true) :
    ∃ pieces, Reader.Repeats pieceReader (text ++ back) pieces back ∧ pieces.flatten = text := by
  -- The induction is on the length: a piece takes many characters at once.
  induction hlength : text.length using Nat.strong_induction_on generalizing text with
  | _ length ih =>
      cases text with
      | nil => exact ⟨[], .nil back, rfl⟩
      | cons c rest =>
          have next {piece others : List Char} (htext : c :: rest = piece ++ others)
              (hpiece : pieceReader (piece ++ (others ++ back)) = some (piece, others ++ back))
              (hothers : Balanced false others) :
              ∃ pieces, Reader.Repeats pieceReader (c :: rest ++ back) pieces back ∧
                pieces.flatten = c :: rest := by
            have hne := (pieceReader_sound hpiece).2.1
            have hshorter : others.length < length := by
              have := List.length_pos_iff.2 hne
              rw [← hlength, htext, List.length_append]
              omega
            obtain ⟨pieces, hpieces, rfl⟩ := ih _ hshorter hothers rfl
            refine ⟨piece :: pieces, ?_, by rw [List.flatten_cons, htext]⟩
            rw [htext, List.append_assoc]
            exact .cons hpiece hpieces
          by_cases hc : c = '\''
          · subst hc
            obtain ⟨found, others, rfl, hothers, hbalanced⟩ :=
              exists_write_of_balanced ((balanced_quote false rest).1 h)
            have hhead : (others ++ back).head? ≠ some '\'' := by
              cases others with
              | nil =>
                  intro hhead
                  have := hback _ hhead
                  contradiction
              | cons d others => simpa using hothers
            have hcut : '\'' :: (Quoted.double found ++ '\'' :: others) =
                Quoted.write found ++ others := by simp [Quoted.write]
            refine next hcut ?_ hbalanced
            rw [pieceReader, Reader.or, quotedPiece_eq_some_iff.2 ⟨found, rfl, rfl, hhead⟩]
          · have hplain : isDelimiter c = false := by
              have := ((balanced_other hc).1 h).1
              simp only [isSeparator, Bool.false_eq_true, false_or, Bool.or_eq_false_iff] at this
              simp [isDelimiter, hc, this]
            have hcut := List.takeWhile_append_dropWhile (p := fun d => !isDelimiter d)
              (l := c :: rest)
            have hpiece : Balanced false ((c :: rest).takeWhile fun d => !isDelimiter d) :=
              balanced_of_all fun d hd => by simpa using List.mem_takeWhile_imp hd
            refine next hcut.symm ?_ ((balanced_append hpiece).1 (hcut.symm ▸ h))
            rw [pieceReader, Reader.or, quotedPiece_eq_none (by simp [hplain, hc])]
            refine Reader.many1_eq_some_iff.2 ⟨rfl, by simp [hplain], fun d hd =>
              List.mem_takeWhile_imp (p := fun d => !isDelimiter d) hd, ?_⟩
            have hstop := Text.head?_dropWhile_eq_false (fun d => !isDelimiter d) (c :: rest)
            generalize (c :: rest).dropWhile (fun d => !isDelimiter d) = others at hstop
            cases others with
            | nil => exact fun d hd => by simp [isDelimiter_of_isSeparator (hback d hd)]
            | cons d others => exact hstop

theorem valueReader_sound {text value back : List Char}
    (h : valueReader text = some (value, back)) : text = value ++ back ∧ IsValue value := by
  rw [valueReader, Reader.bind_eq_some_iff] at h
  obtain ⟨pieces, mid, hpieces, hpure⟩ := h
  obtain ⟨rfl, rfl⟩ := Reader.pure_eq_some_iff.1 hpure
  obtain ⟨hne, hrepeats, -⟩ := (Reader.plus_eq_some_iff pieceReader_shorter).1 hpieces
  obtain ⟨htext, hbalanced⟩ := balanced_flatten_of_repeats hrepeats
  refine ⟨htext, (isValue_iff _).2 ⟨?_, hbalanced⟩⟩
  cases hrepeats with
  | nil => exact absurd rfl hne
  | cons hfirst _ =>
      rw [List.flatten_cons]
      exact List.append_ne_nil_of_left_ne_nil (pieceReader_sound hfirst).2.1 _

theorem valueReader_complete {value back : List Char} (h : IsValue value)
    (hback : ∀ c ∈ back.head?, isSeparator c = true) :
    valueReader (value ++ back) = some (value, back) := by
  obtain ⟨hne, hbalanced⟩ := (isValue_iff value).1 h
  obtain ⟨pieces, hpieces, rfl⟩ := repeats_of_balanced hbalanced hback
  rw [valueReader, Reader.bind_eq_some_iff]
  refine ⟨pieces, back, (Reader.plus_eq_some_iff pieceReader_shorter).2
    ⟨?_, hpieces, pieceReader_eq_none hback⟩, rfl⟩
  rintro rfl
  exact hne rfl

theorem valueReader_eq_none {text : List Char} (h : ∀ c ∈ text.head?, isSeparator c = true) :
    valueReader text = none := by
  rw [valueReader, Reader.bind_eq_none_iff]
  intro pieces mid hpieces
  obtain ⟨hne, hrepeats, -⟩ := (Reader.plus_eq_some_iff pieceReader_shorter).1 hpieces
  cases hrepeats with
  | nil => exact absurd rfl hne
  | cons hfirst _ =>
      rw [pieceReader_eq_none h] at hfirst
      contradiction

/-! ### Values with names, and lists of them -/

theorem continuesName_of_isSeparator {c : Char} (h : isSeparator c = true) :
    Text.continuesName c = false := by
  simp only [isSeparator, Bool.or_eq_true, decide_eq_true_eq] at h
  rcases h with ((rfl | rfl) | rfl) | rfl <;> decide

theorem quote_notMem_of_isName {name : List Char} (h : isName name = true) :
    '\'' ∉ name := fun hquote =>
  absurd (Text.all_continuesName_of_isName h _ hquote) (by decide)

theorem isSeparator_of_end {c : Char} (h : c = ',' ∨ c = ')') : isSeparator c = true := by
  rcases h with rfl | rfl <;> decide

theorem namedReader_sound {text back : List Char} {value : NamedValue}
    (h : namedReader text = some (value, back)) :
    text = value.render.toList ++ back ∧ value.IsWritable := by
  simp only [namedReader, Reader.bind_eq_some_iff, Reader.name_eq_some_iff,
    Reader.char_eq_some_iff, Reader.pure_eq_some_iff] at h
  obtain ⟨name, _, ⟨rfl, hname, -⟩, _, _, ⟨rfl, rfl⟩, written, _, hwritten, rfl, rfl⟩ := h
  obtain ⟨rfl, hvalue⟩ := valueReader_sound hwritten
  refine ⟨by simp [NamedValue.render], ?_, ?_⟩
  · simpa using hname
  · simpa using hvalue

theorem positionalReader_sound {text back : List Char} {value : NamedValue}
    (h : positionalReader text = some (value, back)) :
    text = value.render.toList ++ back ∧ value.IsWritable := by
  simp only [positionalReader, Reader.bind_eq_some_iff, Reader.pure_eq_some_iff] at h
  obtain ⟨written, _, hwritten, rfl, rfl⟩ := h
  obtain ⟨rfl, hvalue⟩ := valueReader_sound hwritten
  refine ⟨by simp [NamedValue.render], by simp, ?_⟩
  simpa using hvalue

theorem namedValueReader_sound {text back : List Char} {value : NamedValue}
    (h : namedValueReader text = some (value, back)) :
    text = value.render.toList ++ back ∧ value.IsWritable := by
  rw [namedValueReader, Reader.or] at h
  split at h
  · rename_i found hfound
    obtain rfl := Option.some.inj h
    exact namedReader_sound hfound
  · exact positionalReader_sound h

/-- A value without a name is not taken for one with a name: its `=` stand inside quotes, and a
name has none. -/
theorem namedReader_eq_none {value back : List Char} (h : IsValue value)
    (hback : ∀ c ∈ back.head?, c = ',' ∨ c = ')') : namedReader (value ++ back) = none := by
  cases hread : namedReader (value ++ back) with
  | none => rfl
  | some found =>
      obtain ⟨taken, left⟩ := found
      simp only [namedReader, Reader.bind_eq_some_iff, Reader.name_eq_some_iff,
        Reader.char_eq_some_iff] at hread
      obtain ⟨name, _, ⟨htext, hname, -⟩, _, rest, ⟨rfl, -⟩, -⟩ := hread
      rcases List.append_eq_append_iff.1 htext with ⟨front, rfl, rfl⟩ | ⟨front, rfl, hrest⟩
      · -- The text of the value ends in front of the `=`, so what stands behind it belongs to
        -- the name or is the `=`.
        cases front with
        | nil =>
            rcases hback _ rfl with heq | heq <;> exact absurd heq (by decide)
        | cons c front =>
            have hc := Text.all_continuesName_of_isName hname c (by simp)
            rw [continuesName_of_isSeparator (isSeparator_of_end (hback c rfl))] at hc
            contradiction
      · cases front with
        | nil =>
            rw [List.nil_append] at hrest
            rcases hback '=' (by rw [← hrest]; rfl) with heq | heq <;> exact absurd heq (by decide)
        | cons c front =>
            obtain ⟨rfl, -⟩ := List.cons.inj hrest
            have hodd := h.hidden name '=' front rfl (by decide)
            rw [List.count_eq_zero_of_not_mem (quote_notMem_of_isName hname)] at hodd
            exact absurd hodd (by decide)

theorem namedValueReader_complete {value : NamedValue} {back : List Char} (h : value.IsWritable)
    (hback : ∀ c ∈ back.head?, c = ',' ∨ c = ')') :
    namedValueReader (value.render.toList ++ back) = some (value, back) := by
  obtain ⟨name, written⟩ := value
  have hread := valueReader_complete h.isValue fun c hc => isSeparator_of_end (hback c hc)
  rw [namedValueReader, Reader.or]
  cases name with
  | none =>
      rw [NamedValue.render, namedReader_eq_none h.isValue hback]
      rw [positionalReader, Reader.bind_eq_some_iff]
      exact ⟨written.toList, back, hread, by rw [String.ofList_toList]; rfl⟩
  | some name =>
      have hname := h.isName name rfl
      have : namedReader ((NamedValue.render ⟨some name, written⟩).toList ++ back) =
          some (⟨some name, written⟩, back) := by
        simp only [NamedValue.render, String.toList_append, List.append_assoc]
        rw [namedReader, Reader.bind_eq_some_iff]
        refine ⟨name.toList, "=".toList ++ (written.toList ++ back),
          Reader.name_eq_some_iff.2 ⟨rfl, hname, ?_⟩, ?_⟩
        · rintro c ⟨rfl⟩
          decide
        · rw [Reader.bind_eq_some_iff]
          refine ⟨'=', written.toList ++ back, Reader.char_eq_some_iff.2 ⟨rfl, rfl⟩, ?_⟩
          rw [Reader.bind_eq_some_iff]
          exact ⟨written.toList, back, hread, by rw [String.ofList_toList, String.ofList_toList]; rfl⟩
      rw [this]

theorem namedValueReader_eq_none {text : List Char}
    (h : ∀ c ∈ text.head?, isSeparator c = true) : namedValueReader text = none := by
  rw [namedValueReader, Reader.or]
  have hnamed : namedReader text = none := by
    rw [namedReader, Reader.bind_eq_none_iff]
    intro name mid hname
    obtain ⟨rfl, hname, -⟩ := Reader.name_eq_some_iff.1 hname
    cases name with
    | nil => exact absurd hname (by decide)
    | cons c name =>
        have hc := Text.all_continuesName_of_isName hname c List.mem_cons_self
        rw [continuesName_of_isSeparator (h c rfl)] at hc
        contradiction
  rw [hnamed, positionalReader]
  exact Reader.bind_eq_none_iff.2 fun value mid hvalue => by
    rw [valueReader_eq_none h] at hvalue
    contradiction

/-- The text of a list of values, with commas between. -/
def listText (values : List NamedValue) : List Char :=
  [','].intercalate (values.map fun value => value.render.toList)

theorem toList_joined (values : List NamedValue) :
    (Text.joined "," (values.map NamedValue.render)).toList = listText values := by
  rw [Text.joined, String.toList_intercalate, List.map_map]
  rfl

theorem listText_singleton (value : NamedValue) : listText [value] = value.render.toList := by
  rw [listText, List.map_singleton, List.intercalate_singleton]

theorem listText_cons_cons (value next : NamedValue) (values : List NamedValue) :
    listText (value :: next :: values) =
      value.render.toList ++ [','] ++ listText (next :: values) := by
  rw [listText, List.map_cons, List.map_cons, List.intercalate_cons_cons]
  rfl

theorem listText_cons (value : NamedValue) (values : List NamedValue) :
    listText (value :: values) =
      value.render.toList ++ values.flatMap fun other => ',' :: other.render.toList := by
  rw [listText, List.map_cons, Text.intercalate_cons, List.flatMap_map]

/-- A comma and a value behind it. -/
def nextValueReader : Reader NamedValue := do
  let _ ← Reader.char ','
  namedValueReader

theorem nextValueReader_sound {text back : List Char} {value : NamedValue}
    (h : nextValueReader text = some (value, back)) :
    text = ',' :: value.render.toList ++ back ∧ value.IsWritable := by
  simp only [nextValueReader, Reader.bind_eq_some_iff, Reader.char_eq_some_iff] at h
  obtain ⟨_, _, ⟨rfl, -⟩, hvalue⟩ := h
  obtain ⟨rfl, hwritable⟩ := namedValueReader_sound hvalue
  exact ⟨rfl, hwritable⟩

theorem nextValueReader_shorter (text : List Char) (value : NamedValue) (back : List Char)
    (h : nextValueReader text = some (value, back)) : back.length < text.length := by
  obtain ⟨rfl, -⟩ := nextValueReader_sound h
  simp only [List.cons_append, List.length_cons, List.length_append]
  omega

theorem nextValueReader_eq_none (back : List Char) : nextValueReader (')' :: back) = none := by
  rw [nextValueReader, Reader.bind_eq_none_iff]
  intro c mid hc
  obtain ⟨heq, -⟩ := Reader.char_eq_some_iff.1 hc
  exact absurd (List.cons.inj heq).1 (by decide)

theorem flatMap_of_repeats {text back : List Char} {values : List NamedValue}
    (h : Reader.Repeats nextValueReader text values back) :
    text = (values.flatMap fun value => ',' :: value.render.toList) ++ back ∧
      ∀ value ∈ values, value.IsWritable := by
  induction h with
  | nil text => exact ⟨rfl, by simp⟩
  | cons hfirst _ ih =>
      obtain ⟨rfl, hwritable⟩ := nextValueReader_sound hfirst
      obtain ⟨rfl, hwritables⟩ := ih
      refine ⟨by rw [List.flatMap_cons, List.append_assoc], ?_⟩
      exact List.forall_mem_cons.2 ⟨hwritable, hwritables⟩

theorem head?_flatMap_comma (values : List NamedValue) (back : List Char) :
    ∀ c ∈ ((values.flatMap fun value => ',' :: value.render.toList) ++ ')' :: back).head?,
      c = ',' ∨ c = ')' := by
  cases values with
  | nil =>
      rintro c ⟨rfl⟩
      exact .inr rfl
  | cons value values =>
      rintro c ⟨rfl⟩
      exact .inl rfl

theorem repeats_of_writable {values : List NamedValue} (back : List Char)
    (h : ∀ value ∈ values, value.IsWritable) :
    Reader.Repeats nextValueReader
      ((values.flatMap fun value => ',' :: value.render.toList) ++ ')' :: back) values
      (')' :: back) := by
  induction values with
  | nil => exact .nil _
  | cons value values ih =>
      obtain ⟨hvalue, hvalues⟩ := List.forall_mem_cons.1 h
      refine .cons ?_ (ih hvalues)
      rw [nextValueReader, Reader.bind_eq_some_iff]
      have hread := namedValueReader_complete hvalue (head?_flatMap_comma values back)
      refine ⟨',', _, Reader.char_eq_some_iff.2 ⟨?_, rfl⟩, hread⟩
      rw [List.flatMap_cons, List.append_assoc, List.cons_append]

theorem valueListReader_sound {text back : List Char} {values : List NamedValue}
    (h : valueListReader text = some (values, back)) :
    text = listText values ++ back ∧ ∀ value ∈ values, value.IsWritable := by
  rw [valueListReader, Reader.bind_eq_some_iff] at h
  obtain ⟨first, mid, hfirst, hothers⟩ := h
  rw [Reader.maybe] at hfirst
  split at hfirst
  · rename_i value rest hvalue
    obtain ⟨rfl, rfl⟩ := Prod.mk.inj (Option.some.inj hfirst)
    obtain ⟨others, _, hstar, hpure⟩ := Reader.bind_eq_some_iff.1 hothers
    obtain ⟨rfl, rfl⟩ := Reader.pure_eq_some_iff.1 hpure
    obtain ⟨rfl, hwritable⟩ := namedValueReader_sound hvalue
    obtain ⟨rfl, hwritables⟩ :=
      flatMap_of_repeats ((Reader.star_eq_some_iff nextValueReader_shorter).1 hstar).1
    refine ⟨by rw [listText_cons, List.append_assoc], ?_⟩
    exact List.forall_mem_cons.2 ⟨hwritable, hwritables⟩
  · obtain ⟨rfl, rfl⟩ := Prod.mk.inj (Option.some.inj hfirst)
    obtain ⟨rfl, rfl⟩ := Reader.pure_eq_some_iff.1 hothers
    exact ⟨rfl, by simp⟩

theorem valueListReader_complete {values : List NamedValue} (back : List Char)
    (h : ∀ value ∈ values, value.IsWritable) :
    valueListReader (listText values ++ ')' :: back) = some (values, ')' :: back) := by
  rw [valueListReader, Reader.bind_eq_some_iff]
  cases values with
  | nil =>
      refine ⟨none, ')' :: back, ?_, rfl⟩
      have hend : namedValueReader (')' :: back) = none :=
        namedValueReader_eq_none fun c hc => by
          obtain rfl : ')' = c := by simpa using hc
          decide
      show Reader.maybe namedValueReader (')' :: back) = _
      rw [Reader.maybe, hend]
  | cons value values =>
      obtain ⟨hvalue, hvalues⟩ := List.forall_mem_cons.1 h
      have hread := namedValueReader_complete hvalue (head?_flatMap_comma values back)
      have hstar := (Reader.star_eq_some_iff nextValueReader_shorter).2
        ⟨repeats_of_writable back hvalues, nextValueReader_eq_none back⟩
      rw [listText_cons, List.append_assoc]
      refine ⟨some value, _, ?_, Reader.bind_eq_some_iff.2 ⟨values, _, hstar, rfl⟩⟩
      rw [Reader.maybe, hread]

/-- A list in parentheses is read exactly as it is written. -/
theorem parenthesizedReader_eq_some_iff {text back : List Char} {values : List NamedValue} :
    parenthesizedReader text = some (values, back) ↔
      text = '(' :: listText values ++ ')' :: back ∧ ∀ value ∈ values, value.IsWritable := by
  simp only [parenthesizedReader, Reader.bind_eq_some_iff, Reader.char_eq_some_iff,
    Reader.pure_eq_some_iff]
  constructor
  · rintro ⟨_, _, ⟨rfl, -⟩, found, _, hlist, _, _, ⟨rfl, -⟩, rfl, rfl⟩
    obtain ⟨rfl, hwritable⟩ := valueListReader_sound hlist
    exact ⟨rfl, hwritable⟩
  · rintro ⟨rfl, hwritable⟩
    exact ⟨'(', _, ⟨rfl, rfl⟩, values, ')' :: back, valueListReader_complete back hwritable,
      ')', back, ⟨rfl, rfl⟩, rfl, rfl⟩

/-! ### Segments -/

/-- The text of a segment whose identifier ends in front of what `rest` holds. -/
theorem ofText_of_split {text : String} {identifier rest : List Char} (hne : identifier ≠ [])
    (htext : text.toList = identifier ++ rest)
    (hidentifier : ∀ c ∈ identifier, isIdentifierChar c = true)
    (hrest : ∀ c ∈ rest.head?, isIdentifierChar c = false) :
    ofText text =
      match parenthesizedReader rest with
      | none =>
        if rest.isEmpty then .ok ⟨String.ofList identifier, []⟩
        else .error (.invalidSegment text (.unread rest))
      | some (values, back) =>
        if back.isEmpty then .ok ⟨String.ofList identifier, values⟩
        else .error (.invalidSegment text (.unread back)) := by
  obtain ⟨htake, hdrop⟩ := Text.span_unique hidentifier hrest
  rw [ofText, htext, htake, hdrop]
  have hempty : (identifier ++ rest).isEmpty = false := by
    rw [List.isEmpty_eq_false_iff]
    exact List.append_ne_nil_of_left_ne_nil hne rest
  have hidempty : identifier.isEmpty = false := List.isEmpty_eq_false_iff.2 hne
  exact (if_neg (by rw [hempty]; exact Bool.false_ne_true)).trans
    (if_neg (by rw [hidempty]; exact Bool.false_ne_true))

theorem writes_of_ofText {text : String} {segment : RawSegment}
    (h : ofText text = .ok segment) : Writes text segment := by
  have hcut := List.takeWhile_append_dropWhile (p := isIdentifierChar) (l := text.toList)
  have hall : ∀ c ∈ text.toList.takeWhile isIdentifierChar, isIdentifierChar c = true :=
    fun c hc => List.mem_takeWhile_imp hc
  have hstop := Text.head?_dropWhile_eq_false isIdentifierChar text.toList
  generalize text.toList.takeWhile isIdentifierChar = identifier at hcut hall
  generalize text.toList.dropWhile isIdentifierChar = rest at hcut hstop
  by_cases hne : identifier = []
  · -- Nothing stands in front of the first parenthesis: the text is refused in either case.
    subst hne
    exfalso
    rw [List.nil_append] at hcut
    have hnone : ∀ c ∈ ([] : List Char), isIdentifierChar c = true := by simp
    have htake : rest.takeWhile isIdentifierChar = [] := (Text.span_unique hnone hstop).1
    rw [ofText, ← hcut, htake] at h
    simp only [List.isEmpty_nil, if_true] at h
    split at h <;> cases h
  · have hidentifier : IsIdentifier (String.ofList identifier) :=
      ⟨by rwa [String.toList_ofList], by rwa [String.toList_ofList]⟩
    rw [ofText_of_split hne hcut.symm hall hstop] at h
    split at h
    · split at h
      · rename_i hempty
        obtain rfl := Except.ok.inj h
        obtain rfl := List.isEmpty_iff.1 hempty
        have htext : text = String.ofList identifier := by
          rw [← String.toList_inj, String.toList_ofList, ← hcut, List.append_nil]
        rw [htext]
        exact .bare _ hidentifier
      · contradiction
    · rename_i values back hlist
      split at h
      · rename_i hempty
        obtain rfl := Except.ok.inj h
        obtain rfl := List.isEmpty_iff.1 hempty
        obtain ⟨rfl, hvalues⟩ := parenthesizedReader_eq_some_iff.1 hlist
        have htext : text = String.ofList identifier ++ "(" ++
            Text.joined "," (values.map NamedValue.render) ++ ")" := by
          rw [← String.toList_inj, ← hcut]
          simp [toList_joined]
        rw [htext]
        exact .listed _ values hidentifier hvalues
      · contradiction

theorem ofText_of_writes {text : String} {segment : RawSegment} (h : Writes text segment) :
    ofText text = .ok segment := by
  cases h with
  | bare _ hidentifier =>
      rw [ofText_of_split hidentifier.ne_nil (List.append_nil _).symm
        hidentifier.no_parenthesis (by simp)]
      show Except.ok _ = _
      rw [String.ofList_toList]
  | listed identifier values hidentifier hvalues =>
      have htext : (identifier ++ "(" ++ Text.joined "," (values.map NamedValue.render) ++
          ")").toList = identifier.toList ++ ('(' :: listText values ++ ')' :: []) := by
        simp [toList_joined]
      have hstop : ∀ c ∈ ('(' :: listText values ++ ')' :: []).head?,
          isIdentifierChar c = false := by
        rintro c ⟨rfl⟩
        decide
      rw [ofText_of_split hidentifier.ne_nil htext hidentifier.no_parenthesis hstop,
        parenthesizedReader_eq_some_iff.2 ⟨rfl, hvalues⟩]
      show Except.ok _ = _
      rw [String.ofList_toList]

/-- The segments that are read are those that the text writes. -/
theorem ofText_eq_ok_iff {text : String} {segment : RawSegment} :
    ofText text = .ok segment ↔ Writes text segment :=
  ⟨writes_of_ofText, ofText_of_writes⟩

/-! ### Tokens -/

theorem isSystem_eq_false_iff {segment : RawSegment} :
    segment.isSystem = false ↔ segment.identifier.toList.head? ≠ some Token.systemMark := by
  rw [isSystem, decide_eq_false_iff_not]

theorem toToken_of_isSystem_eq_false {segment : RawSegment} (h : segment.isSystem = false) :
    segment.toToken = .plain segment.identifier segment.values := by
  rw [toToken, h]
  rfl

/-- The mark of system tokens at the front of a text is that of its segment. -/
theorem isSystem_of_writes {text : String} {segment : RawSegment} (h : Writes text segment) :
    segment.isSystem = decide (text.toList.head? = some Token.systemMark) := by
  cases h with
  | bare _ hidentifier => rfl
  | listed identifier values hidentifier _ =>
      cases hchars : identifier.toList with
      | nil => exact absurd hchars hidentifier.ne_nil
      | cons c rest => simp [isSystem, hchars]

/-- The text of a plain token writes the segment of the token. -/
theorem writes_render {identifier : String} {values : List NamedValue}
    (hidentifier : IsIdentifier identifier) (hvalues : ∀ value ∈ values, value.IsWritable) :
    Writes (Token.plain identifier values).render ⟨identifier, values⟩ := by
  rw [Token.render, Token.renderValues]
  cases values with
  | nil =>
      show Writes (identifier ++ "") ⟨identifier, []⟩
      rw [String.append_empty]
      exact .bare identifier hidentifier
  | cons value values =>
      have := Writes.listed identifier (value :: values) hidentifier hvalues
      rw [String.append_assoc, String.append_assoc] at this
      rw [if_neg (by rintro ⟨⟩), String.append_assoc]
      exact this

/-- Some front of the written value, and its text at the end. -/
theorem toList_render (value : NamedValue) :
    ∃ front, value.render.toList = front ++ value.value.toList := by
  obtain ⟨name, written⟩ := value
  cases name with
  | none => exact ⟨[], rfl⟩
  | some name => exact ⟨name.toList ++ ['='], by simp [NamedValue.render]⟩

theorem render_ne_nil {value : NamedValue} (h : value.IsWritable) : value.render.toList ≠ [] := by
  obtain ⟨front, hfront⟩ := toList_render value
  rw [hfront]
  exact List.append_ne_nil_of_right_ne_nil front h.isValue.ne_nil

/-- A value does not end with a separator: it would stand outside quotes. -/
theorem getLast?_render {value : NamedValue} {c : Char} (h : value.IsWritable)
    (hc : isSeparator c = true) : value.render.toList.getLast? ≠ some c := by
  obtain ⟨front, hfront⟩ := toList_render value
  rw [hfront, List.getLast?_append_of_ne_nil front h.isValue.ne_nil]
  intro hlast
  obtain ⟨front, hvalue⟩ := List.getLast?_eq_some_iff.1 hlast
  have hodd := h.isValue.hidden front c [] hvalue hc
  have heven := h.isValue.even_quotes
  have hquote : c ≠ '\'' := by
    rintro rfl
    contradiction
  rw [hvalue, List.count_append, List.count_singleton, if_neg (by simpa using hquote),
    Nat.add_zero] at heven
  exact Nat.not_even_iff_odd.2 hodd heven

theorem listText_ne_nil {value : NamedValue} (values : List NamedValue) (h : value.IsWritable) :
    listText (value :: values) ≠ [] := by
  rw [listText_cons]
  exact List.append_ne_nil_of_left_ne_nil (render_ne_nil h) _

/-- A list of values does not end with an opening parenthesis. -/
theorem getLast?_listText {values : List NamedValue}
    (hvalues : ∀ value ∈ values, value.IsWritable) : (listText values).getLast? ≠ some '(' := by
  induction values with
  | nil => simp [listText]
  | cons value values ih =>
      obtain ⟨hvalue, hothers⟩ := List.forall_mem_cons.1 hvalues
      cases values with
      | nil =>
          rw [listText_singleton]
          exact getLast?_render hvalue (by decide)
      | cons next values =>
          have hnext := (List.forall_mem_cons.1 hothers).1
          rw [listText_cons_cons, List.getLast?_append_of_ne_nil _ (listText_ne_nil values hnext)]
          exact ih hothers

/-- The token of a segment is written as the text of the segment, without an empty list. -/
theorem render_toToken {text : String} {segment : RawSegment} (h : Writes text segment)
    (hplain : segment.isSystem = false) :
    segment.toToken.render = withoutEmptyList text := by
  rw [toToken_of_isSystem_eq_false hplain]
  cases h with
  | bare _ hidentifier =>
      have hno : ¬ ['(', ')'] <:+ text.toList := fun hsuffix =>
        absurd (hidentifier.no_parenthesis '(' (hsuffix.subset (by simp))) (by decide)
      rw [withoutEmptyList, if_neg hno]
      exact String.append_empty
  | listed identifier values _ hvalues =>
      cases values with
      | nil =>
          have htext : (identifier ++ "(" ++ Text.joined "," (List.map NamedValue.render []) ++
              ")").toList = identifier.toList ++ ['('] ++ [')'] := by
            simp [Text.joined]
          rw [withoutEmptyList, htext, if_pos ⟨identifier.toList, by simp⟩,
            List.dropLast_concat, List.dropLast_concat, String.ofList_toList]
          exact String.append_empty
      | cons value values =>
          have hlist := listText_ne_nil values (hvalues value List.mem_cons_self)
          have hno : ¬ ['(', ')'] <:+ (identifier ++ "(" ++
              Text.joined "," (List.map NamedValue.render (value :: values)) ++ ")").toList := by
            rintro ⟨front, hfront⟩
            simp only [String.toList_append, toList_joined] at hfront
            have hcut : front ++ ['('] =
                identifier.toList ++ "(".toList ++ listText (value :: values) :=
              List.append_cancel_right (by rw [List.append_assoc]; exact hfront)
            have hlast := congrArg List.getLast? hcut
            rw [List.getLast?_concat, List.getLast?_append_of_ne_nil _ hlist] at hlast
            exact getLast?_listText hvalues hlast.symm
          rw [withoutEmptyList, if_neg hno]
          simp only [Token.render, Token.identifier, Token.values, Token.renderValues,
            List.isEmpty_cons, Bool.false_eq_true, if_false, String.append_assoc]

/-- The parser of segments accepts its grammar and nothing else.  The segment that it gives is the
only one that the text writes; where it is plain, its token is written as the text again, less an
empty list; and a plain token of this form is read back from its own text. -/
theorem ofText_recognizes_grammar (text : String) :
    (∀ segment, ofText text = .ok segment ↔ Writes text segment) ∧
      (∀ segment, Writes text segment → ∀ other, Writes text other → other = segment) ∧
      (∀ segment, ofText text = .ok segment → text.toList.head? ≠ some Token.systemMark →
        segment.toToken.render = withoutEmptyList text) ∧
      ∀ identifier values, IsIdentifier identifier →
        identifier.toList.head? ≠ some Token.systemMark →
        (∀ value ∈ values, NamedValue.IsWritable value) →
        ∃ segment, ofText (Token.plain identifier values).render = .ok segment ∧
          segment.toToken = .plain identifier values := by
  refine ⟨fun segment => ofText_eq_ok_iff, ?_, ?_, ?_⟩
  · intro segment hsegment other hother
    rw [← ofText_eq_ok_iff] at hsegment hother
    rw [hsegment] at hother
    exact (Except.ok.inj hother).symm
  · intro segment hsegment hmark
    have hwrites := writes_of_ofText hsegment
    refine render_toToken hwrites ?_
    rw [isSystem_of_writes hwrites]
    exact decide_eq_false hmark
  · intro identifier values hidentifier hmark hvalues
    refine ⟨⟨identifier, values⟩, ofText_of_writes (writes_render hidentifier hvalues), ?_⟩
    exact toToken_of_isSystem_eq_false (isSystem_eq_false_iff.2 hmark)

/-- A named value with a doubled quote and a separator behind it. -/
theorem ofText_recognizes_quoted_separator :
    ofText "Find(by='a'',(')" = .ok ⟨"Find", [⟨some "by", "'a'',('"⟩]⟩ ∧
      (Token.plain "Find" [⟨some "by", "'a'',('"⟩]).render = "Find(by='a'',(')" ∧
      ∃ segment, ofText (Token.plain "Find" [⟨some "by", "'a'',('"⟩]).render = .ok segment ∧
        segment.toToken = .plain "Find" [⟨some "by", "'a'',('"⟩] := by
  have hidentifier : IsIdentifier "Find" := ⟨by decide, List.all_eq_true.1 (by decide)⟩
  have hvalues : ∀ value ∈ [(⟨some "by", "'a'',('"⟩ : NamedValue)], value.IsWritable := by
    refine List.forall_mem_singleton.2 ⟨by decide, (isValue_iff _).2 ⟨by decide, ?_⟩⟩
    simp [Balanced, isSeparator]
  obtain ⟨hread, -, hrender, -⟩ := ofText_recognizes_grammar "Find(by='a'',(')"
  obtain ⟨-, -, -, hagain⟩ := ofText_recognizes_grammar ""
  have hsegment := (hread ⟨"Find", [⟨some "by", "'a'',('"⟩]⟩).2 (.listed "Find" _ hidentifier hvalues)
  exact ⟨hsegment, hrender _ hsegment (by decide), hagain _ _ hidentifier (by decide) hvalues⟩

end RawSegment
end ResourcePaths
