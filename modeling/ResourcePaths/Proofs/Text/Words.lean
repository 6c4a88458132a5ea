import Mathlib.Data.List.DropRight
import ResourcePaths.Proofs.Text.Reading
import ResourcePaths.Text.Words

/-!
# Cuts, blanks and case

Where a text is cut, which texts trimming leaves alone, and what comparison without regard to case
keeps apart.
-/

namespace ResourcePaths
namespace Text

/-! ### Blanks -/

/-- The code points of blanks. -/
def blanks : List Nat :=
  [9, 10, 11, 12, 13, 0x20, 0x85, 0xA0, 0x1680, 0x2000, 0x2001, 0x2002, 0x2003, 0x2004, 0x2005,
   0x2006, 0x2007, 0x2008, 0x2009, 0x200A, 0x2028, 0x2029, 0x202F, 0x205F, 0x3000]

theorem mem_blanks_of_isBlank {c : Char} (h : isBlank c = true) : c.toNat ∈ blanks := by
  simp only [isBlank, Bool.or_eq_true, Bool.and_eq_true, decide_eq_true_eq] at h
  simp only [blanks, List.mem_cons, List.not_mem_nil, or_false]
  omega

theorem continuesName_of_mem_blanks : ∀ code ∈ blanks, continuesName (Char.ofNat code) = false := by
  decide +kernel

/-- No blank stands in a name. -/
theorem isBlank_of_continuesName {c : Char} (h : continuesName c = true) : isBlank c = false := by
  cases hblank : isBlank c with
  | false => rfl
  | true =>
      have hnot := continuesName_of_mem_blanks _ (mem_blanks_of_isBlank hblank)
      rw [Char.ofNat_toNat, h] at hnot
      contradiction

theorem trimFront_of_not_blank {text : List Char} (h : ∀ c ∈ text, isBlank c = false) :
    trimFront text = text := by
  cases text with
  | nil => rfl
  | cons c rest => rw [trimFront, List.dropWhile_cons_of_neg (by simp [h c List.mem_cons_self])]

/-- A text without blanks is not trimmed. -/
theorem trim_of_not_blank {text : List Char} (h : ∀ c ∈ text, isBlank c = false) :
    trim text = text := by
  have hreverse : ∀ c ∈ text.reverse, isBlank c = false :=
    fun c hc => h c (List.mem_reverse.1 hc)
  rw [trim, trimFront_of_not_blank h, trimFront_of_not_blank hreverse, List.reverse_reverse]

theorem trim_eq (text : List Char) : trim text = (trimFront text).rdropWhile isBlank := rfl

theorem trimFront_trim (text : List Char) : trimFront (trim text) = trim text := by
  have hprefix : trim text <+: trimFront text := List.rdropWhile_prefix ..
  cases htrim : trim text with
  | nil => rfl
  | cons c rest =>
      -- What is left of the text begins as it does without the blanks at its front.
      rw [htrim] at hprefix
      obtain ⟨back, hback⟩ := hprefix
      have hhead := List.head?_dropWhile_not isBlank text
      rw [show text.dropWhile isBlank = c :: rest ++ back from hback.symm] at hhead
      exact List.dropWhile_cons_of_neg (by simpa using hhead)

@[simp]
theorem trim_trim (text : List Char) : trim (trim text) = trim text := by
  rw [trim_eq (trim text), trimFront_trim, trim_eq text]
  exact List.rdropWhile_idempotent ..

@[simp]
theorem trimmed_trimmed (text : String) : trimmed (trimmed text) = trimmed text := by
  rw [trimmed, trimmed, String.toList_ofList, trim_trim]

/-- A text that neither begins nor ends with a blank is not trimmed. -/
theorem trim_between {first last : Char} (hfirst : isBlank first = false)
    (hlast : isBlank last = false) (middle : List Char) :
    trim (first :: middle ++ [last]) = first :: middle ++ [last] := by
  have hfront : trimFront (first :: middle ++ [last]) = first :: middle ++ [last] :=
    List.dropWhile_cons_of_neg (by simp [hfirst])
  rw [trim_eq, hfront]
  exact List.rdropWhile_concat_neg _ _ _ (by simp [hlast])

/-! ### Cuts -/

theorem cutLast?_eq_none_iff {separator : Char} {text : List Char} :
    cutLast? separator text = none ↔ separator ∉ text := by
  induction text with
  | nil => simp [cutLast?]
  | cons c rest ih =>
      rw [cutLast?, List.mem_cons, not_or, ← ih]
      cases hrest : cutLast? separator rest with
      | some cut => simp
      | none =>
          by_cases hc : c = separator
          · simp [hc]
          · simp [hc, Ne.symm hc]

/-- The last cut is in front of a text without the separator. -/
theorem cutLast?_append {separator : Char} (front : List Char) {back : List Char}
    (h : separator ∉ back) :
    cutLast? separator (front ++ separator :: back) = some (front, back) := by
  induction front with
  | nil => rw [List.nil_append, cutLast?, cutLast?_eq_none_iff.2 h, if_pos rfl]
  | cons c front ih => rw [List.cons_append, cutLast?, ih]

/-- The text is cut where nothing behind the cut is a separator. -/
theorem cutLast?_eq_some_iff {separator : Char} {text front back : List Char} :
    cutLast? separator text = some (front, back) ↔
      text = front ++ separator :: back ∧ separator ∉ back := by
  constructor
  · intro h
    induction text generalizing front with
    | nil => contradiction
    | cons c rest ih =>
        rw [cutLast?] at h
        cases hrest : cutLast? separator rest with
        | some cut =>
            rw [hrest] at h
            obtain ⟨rfl, rfl⟩ := Prod.mk.inj (Option.some.inj h)
            obtain ⟨hcut, hback⟩ := ih hrest
            exact ⟨congrArg (c :: ·) hcut, hback⟩
        | none =>
            rw [hrest] at h
            obtain ⟨rfl, heq⟩ := Option.ite_none_right_eq_some.1 h
            obtain ⟨rfl, rfl⟩ := Prod.mk.inj (Option.some.inj heq)
            exact ⟨rfl, cutLast?_eq_none_iff.1 hrest⟩
  · rintro ⟨rfl, hback⟩
    exact cutLast?_append front hback

/-- Texts that are put together around a separator are found again by the cut. -/
theorem cutLast?_join {separator : Char} {mark : String} (hmark : mark.toList = [separator])
    (front : String) {back : String} (h : separator ∉ back.toList) :
    cutLast? separator (front ++ mark ++ back).toList = some (front.toList, back.toList) := by
  have htext : (front ++ mark ++ back).toList = front.toList ++ separator :: back.toList := by
    simp [hmark]
  rw [htext]
  exact cutLast?_append front.toList h

/-- The parts of a cut make the text when they are put together again. -/
theorem eq_join_of_cutLast? {separator : Char} {mark text : String} {front back : List Char}
    (hmark : mark.toList = [separator]) (h : cutLast? separator text.toList = some (front, back)) :
    text = String.ofList front ++ mark ++ String.ofList back := by
  rw [← String.toList_inj, (cutLast?_eq_some_iff.1 h).1]
  simp [hmark]

theorem cutFirst?_eq_none_iff {separator : Char} {text : List Char} :
    cutFirst? separator text = none ↔ separator ∉ text := by
  induction text with
  | nil => simp [cutFirst?]
  | cons c rest ih =>
      rw [cutFirst?, List.mem_cons, not_or, ← ih]
      by_cases hc : c = separator
      · simp [hc]
      · simp [hc, Ne.symm hc]

/-- The first cut is behind a text without the separator. -/
theorem cutFirst?_append {separator : Char} {front : List Char} (h : separator ∉ front)
    (back : List Char) : cutFirst? separator (front ++ separator :: back) = some (front, back) := by
  induction front with
  | nil => rw [List.nil_append, cutFirst?, if_pos rfl]
  | cons c front ih =>
      rw [List.mem_cons, not_or] at h
      rw [List.cons_append, cutFirst?, if_neg (Ne.symm h.1), ih h.2]
      rfl

/-- The text is cut where nothing in front of the cut is a separator. -/
theorem cutFirst?_eq_some_iff {separator : Char} {text front back : List Char} :
    cutFirst? separator text = some (front, back) ↔
      text = front ++ separator :: back ∧ separator ∉ front := by
  constructor
  · intro h
    induction text generalizing front with
    | nil => contradiction
    | cons c rest ih =>
        rw [cutFirst?] at h
        split at h
        · rename_i hc
          obtain ⟨rfl, rfl⟩ := Prod.mk.inj (Option.some.inj h)
          exact ⟨congrArg (· :: rest) hc, List.not_mem_nil⟩
        · rename_i hc
          obtain ⟨cut, hcut, heq⟩ := Option.map_eq_some_iff.1 h
          obtain ⟨rfl, rfl⟩ := Prod.mk.inj heq
          obtain ⟨hrest, hfront⟩ := ih hcut
          exact ⟨congrArg (c :: ·) hrest, List.not_mem_cons_of_ne_of_not_mem (Ne.symm hc) hfront⟩
  · rintro ⟨rfl, hfront⟩
    exact cutFirst?_append hfront back

theorem pieces_of_notMem {separator : Char} {text : String} (h : separator ∉ text.toList) :
    pieces separator text = [text] := by
  rw [pieces, List.splitOn_eq_singleton h, List.map_singleton, String.ofList_toList]

/-- The last piece is what stands behind the last separator. -/
theorem pieces_append {separator : Char} (front : String) {back : String}
    (h : separator ∉ back.toList) :
    pieces separator (front ++ String.singleton separator ++ back) =
      pieces separator front ++ [back] := by
  rw [← pieces_of_notMem h, pieces, pieces, pieces, ← List.map_append,
    ← List.splitOn_append_cons_self]
  simp

theorem dropFront?_append (front rest : List Char) :
    dropFront? front (front ++ rest) = some rest := by
  induction front with
  | nil => cases rest <;> rfl
  | cons c front ih =>
      rw [List.cons_append, dropFront?, if_pos rfl]
      exact ih

/-- Only a front that is there can be dropped. -/
theorem eq_append_of_dropFront? {front text rest : List Char}
    (h : dropFront? front text = some rest) : text = front ++ rest := by
  induction front generalizing text with
  | nil =>
      rw [dropFront?] at h
      exact Option.some.inj h
  | cons c front ih =>
      cases text with
      | nil => contradiction
      | cons d text =>
          rw [dropFront?] at h
          obtain ⟨rfl, htext⟩ := Option.ite_none_right_eq_some.1 h
          exact congrArg (c :: ·) (ih htext)

theorem dropBack?_append (text : List Char) (last : Char) :
    dropBack? last (text ++ [last]) = some text := by
  simp [dropBack?]

/-! ### Comparison without regard to case -/

theorem alike_iff {left right : String} :
    alike left right = true ↔ fold left.toList = fold right.toList :=
  decide_eq_true_iff

theorem alike_symm {left right : String} (h : alike left right = true) :
    alike right left = true :=
  alike_iff.2 (alike_iff.1 h).symm

theorem alike_trans {left middle right : String} (h : alike left middle = true)
    (h' : alike middle right = true) : alike left right = true :=
  alike_iff.2 ((alike_iff.1 h).trans (alike_iff.1 h'))

theorem alike_congr {left right : String} (h : alike left right = true) (text : String) :
    alike text left = alike text right := by
  rw [alike, alike, alike_iff.1 h]

/-- Capital letters move by 32 code points, and all other characters stay. -/
theorem toNat_toLower (c : Char) :
    c.toLower.toNat = if 65 ≤ c.toNat ∧ c.toNat ≤ 90 then c.toNat + 32 else c.toNat := by
  have hcode : ∀ d : Char, d.toNat = d.val.toNat := fun _ => rfl
  unfold Char.toLower
  by_cases hrange : c.val ≥ 'A'.val ∧ c.val ≤ 'Z'.val
  · rw [dif_pos hrange]
    have hlow : 65 ≤ c.toNat := UInt32.le_iff_toNat_le.1 hrange.1
    have hhigh : c.toNat ≤ 90 := UInt32.le_iff_toNat_le.1 hrange.2
    rw [if_pos ⟨hlow, hhigh⟩]
    show (c.val + ('a'.val - 'A'.val)).toNat = c.toNat + 32
    rw [UInt32.toNat_add]
    change (c.toNat + 32) % 2 ^ 32 = c.toNat + 32
    omega
  · rw [dif_neg hrange, if_neg]
    intro hcodes
    exact hrange ⟨UInt32.le_iff_toNat_le.2 hcodes.1, UInt32.le_iff_toNat_le.2 hcodes.2⟩

theorem toLower_eq_dot_iff (c : Char) : c.toLower = '.' ↔ c = '.' := by
  have hcode : ∀ d : Char, d = '.' ↔ d.toNat = 46 := fun d => Char.toNat_inj.symm
  rw [hcode, hcode, toNat_toLower]
  split <;> omega

theorem isBlank_toLower (c : Char) : isBlank c.toLower = isBlank c := by
  rw [Bool.eq_iff_iff]
  simp only [isBlank, toNat_toLower, Bool.or_eq_true, Bool.and_eq_true, decide_eq_true_eq]
  split <;> omega

theorem mem_fold_dot {text : List Char} : '.' ∈ fold text ↔ '.' ∈ text := by
  rw [fold, List.mem_map]
  constructor
  · rintro ⟨c, hc, heq⟩
    obtain rfl := (toLower_eq_dot_iff c).1 heq
    exact hc
  · intro h
    exact ⟨'.', h, rfl⟩

/-- Names that are alike have dots in the same places, or none at all. -/
theorem mentions_dot_of_alike {left right : String} (h : alike left right = true) :
    mentions left '.' = mentions right '.' := by
  rw [Bool.eq_iff_iff]
  simp only [mentions, List.contains_iff_mem]
  rw [← mem_fold_dot, alike_iff.1 h, mem_fold_dot]

theorem fold_trimFront (text : List Char) : fold (trimFront text) = trimFront (fold text) := by
  have hblank : isBlank ∘ Char.toLower = isBlank := funext isBlank_toLower
  rw [fold, fold, trimFront, trimFront, List.dropWhile_map, hblank]

theorem fold_trim (text : List Char) : fold (trim text) = trim (fold text) := by
  have hreverse (text : List Char) : fold text.reverse = (fold text).reverse := List.map_reverse
  rw [trim, trim, hreverse, fold_trimFront, hreverse, fold_trimFront]

/-- Texts that are alike are so without the blanks at their ends. -/
theorem alike_trimmed {left right : String} (h : alike left right = true) :
    alike (trimmed left) (trimmed right) = true := by
  rw [alike_iff] at h ⊢
  rw [trimmed, trimmed, String.toList_ofList, String.toList_ofList, fold_trim, fold_trim, h]

/-- Case does not move the last dot. -/
theorem cutLast?_fold (text : List Char) :
    cutLast? '.' (fold text) = (cutLast? '.' text).map (Prod.map fold fold) := by
  induction text with
  | nil => rfl
  | cons c rest ih =>
      show cutLast? '.' (c.toLower :: fold rest) = _
      rw [cutLast?, cutLast?, ih]
      cases hrest : cutLast? '.' rest with
      | some cut => rfl
      | none =>
          by_cases hc : c = '.'
          · rw [if_pos hc, if_pos ((toLower_eq_dot_iff c).2 hc)]
            rfl
          · rw [if_neg hc, if_neg fun hlower => hc ((toLower_eq_dot_iff c).1 hlower)]
            rfl

end Text
end ResourcePaths
