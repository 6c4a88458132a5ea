import Mathlib.Data.List.TakeWhile
import ResourcePaths.Text.Reader

/-!
# What readers take

Each reader of `Reader` is described by an equation between the text in front of it and the text
that it leaves.  The descriptions are exact in both directions: a reader that takes as many
characters as there are is pinned down by what stands behind the characters it took.
-/

namespace ResourcePaths
namespace Text

/-- A name: a letter or `_`, then letters, digits and `_`. -/
def isName : List Char → Bool
  | [] => false
  | first :: others => startsName first && others.all continuesName

theorem continuesName_of_startsName {c : Char} (h : startsName c = true) :
    continuesName c = true := by
  simp only [startsName, continuesName, Bool.or_eq_true] at *
  rcases h with h | h
  · exact .inl (.inl h)
  · exact .inr h

theorem all_continuesName_of_isName {text : List Char} (h : isName text = true) :
    ∀ c ∈ text, continuesName c = true := by
  cases text with
  | nil => simp
  | cons first others =>
      obtain ⟨hfirst, hothers⟩ := Bool.and_eq_true_iff.1 h
      intro c hc
      rcases List.mem_cons.1 hc with rfl | hc
      · exact continuesName_of_startsName hfirst
      · exact List.all_eq_true.1 hothers c hc

theorem ne_nil_of_isName {text : List Char} (h : isName text = true) : text ≠ [] := by
  rintro rfl
  exact absurd h (by decide)

/-- A text is cut in one way into characters of a class and a rest that does not go on with
one. -/
theorem span_unique {kind : Char → Bool} {taken rest : List Char}
    (htaken : ∀ c ∈ taken, kind c = true) (hrest : ∀ c ∈ rest.head?, kind c = false) :
    (taken ++ rest).takeWhile kind = taken ∧ (taken ++ rest).dropWhile kind = rest := by
  rw [List.takeWhile_append_of_pos htaken, List.dropWhile_append_of_pos htaken]
  cases rest with
  | nil => simp
  | cons c rest =>
      have hc : kind c = false := hrest c rfl
      simp [hc]

theorem head?_dropWhile_eq_false (kind : Char → Bool) (text : List Char) :
    ∀ c ∈ (text.dropWhile kind).head?, kind c = false := by
  induction text with
  | nil => simp
  | cons first rest ih =>
      rw [List.dropWhile_cons]
      split
      · exact ih
      · intro c hc
        simp_all

/-- Dropping characters of a class stops in front of a rest that does not start with one. -/
theorem dropWhile_append_of_head? {kind : Char → Bool} {taken rest : List Char}
    (hrest : ∀ c ∈ rest.head?, kind c = false) :
    (taken ++ rest).dropWhile kind = taken.dropWhile kind ++ rest := by
  rw [List.dropWhile_append]
  split
  · rename_i hempty
    rw [List.isEmpty_iff.1 hempty, List.nil_append]
    cases rest with
    | nil => rfl
    | cons c rest => exact List.dropWhile_cons_of_neg (by simp [hrest c rfl])
  · rfl

/-- Items with a separator between each two: the first one, and the separator in front of each of
the others. -/
theorem intercalate_cons (separator : Char) (first : List Char) (others : List (List Char)) :
    [separator].intercalate (first :: others) = first ++ others.flatMap (separator :: ·) := by
  induction others generalizing first with
  | nil => rw [List.intercalate_singleton, List.flatMap_nil, List.append_nil]
  | cons next others ih =>
      rw [List.intercalate_cons_cons, ih next, List.append_assoc]
      rfl

end Text

namespace Reader

open Text (isName startsName continuesName)

variable {α β : Type}

/-- A reader followed by another one. -/
theorem bind_eq_some_iff {reader : Reader α} {next : α → Reader β} {text back : List Char}
    {value : β} :
    (reader >>= next) text = some (value, back) ↔
      ∃ first mid, reader text = some (first, mid) ∧ next first mid = some (value, back) := by
  show (reader text).bind (fun found => next found.1 found.2) = some (value, back) ↔ _
  rw [Option.bind_eq_some_iff]
  constructor
  · rintro ⟨⟨first, mid⟩, hfirst, hnext⟩
    exact ⟨first, mid, hfirst, hnext⟩
  · rintro ⟨first, mid, hfirst, hnext⟩
    exact ⟨(first, mid), hfirst, hnext⟩

theorem bind_eq_none_iff {reader : Reader α} {next : α → Reader β} {text : List Char} :
    (reader >>= next) text = none ↔
      ∀ first mid, reader text = some (first, mid) → next first mid = none := by
  show (reader text).bind (fun found => next found.1 found.2) = none ↔ _
  rw [Option.bind_eq_none_iff]
  exact ⟨fun h first mid => h (first, mid), fun h found => h found.1 found.2⟩

@[simp] theorem pure_apply (value : α) (text : List Char) :
    (pure value : Reader α) text = some (value, text) := rfl

theorem pure_eq_some_iff {value found : α} {text back : List Char} :
    (pure value : Reader α) text = some (found, back) ↔ found = value ∧ text = back := by
  rw [pure_apply, Option.some.injEq, Prod.mk.injEq, eq_comm]

theorem satisfying_eq_some_iff {kind : Char → Bool} {text back : List Char} {c : Char} :
    satisfying kind text = some (c, back) ↔ text = c :: back ∧ kind c = true := by
  cases text with
  | nil => simp [satisfying]
  | cons d rest =>
      rw [satisfying]
      split
      · rename_i hd
        simp only [Option.some.injEq, Prod.mk.injEq, List.cons.injEq]
        constructor
        · rintro ⟨rfl, rfl⟩
          exact ⟨⟨rfl, rfl⟩, hd⟩
        · rintro ⟨⟨rfl, rfl⟩, -⟩
          exact ⟨rfl, rfl⟩
      · rename_i hd
        simp only [List.cons.injEq]
        constructor
        · intro h
          contradiction
        · rintro ⟨⟨rfl, rfl⟩, hc⟩
          exact absurd hc hd

theorem char_eq_some_iff {c d : Char} {text back : List Char} :
    char c text = some (d, back) ↔ text = c :: back ∧ d = c := by
  rw [char, satisfying_eq_some_iff, decide_eq_true_eq]
  constructor
  · rintro ⟨rfl, rfl⟩
    exact ⟨rfl, rfl⟩
  · rintro ⟨rfl, rfl⟩
    exact ⟨rfl, rfl⟩

theorem many_eq_some_iff {kind : Char → Bool} {text taken back : List Char} :
    many kind text = some (taken, back) ↔
      text = taken ++ back ∧ (∀ c ∈ taken, kind c = true) ∧ ∀ c ∈ back.head?, kind c = false := by
  rw [many, Option.some.injEq, Prod.mk.injEq]
  constructor
  · rintro ⟨rfl, rfl⟩
    exact ⟨List.takeWhile_append_dropWhile.symm, fun c hc => List.mem_takeWhile_imp hc,
      Text.head?_dropWhile_eq_false kind text⟩
  · rintro ⟨rfl, htaken, hback⟩
    exact Text.span_unique htaken hback

theorem many1_eq_some_iff {kind : Char → Bool} {text taken back : List Char} :
    many1 kind text = some (taken, back) ↔
      text = taken ++ back ∧ taken ≠ [] ∧ (∀ c ∈ taken, kind c = true) ∧
        ∀ c ∈ back.head?, kind c = false := by
  simp only [many1, bind_eq_some_iff, satisfying_eq_some_iff, many_eq_some_iff,
    pure_eq_some_iff]
  constructor
  · rintro ⟨c, mid, ⟨rfl, hc⟩, others, rest, ⟨rfl, hothers, hrest⟩, rfl, rfl⟩
    refine ⟨rfl, List.cons_ne_nil _ _, ?_, hrest⟩
    intro d hd
    rcases List.mem_cons.1 hd with rfl | hd
    · exact hc
    · exact hothers d hd
  · rintro ⟨rfl, hne, htaken, hback⟩
    cases taken with
    | nil => exact absurd rfl hne
    | cons c others =>
        exact ⟨c, others ++ back, ⟨rfl, htaken c List.mem_cons_self⟩, others, back,
          ⟨rfl, fun d hd => htaken d (List.mem_cons_of_mem c hd), hback⟩, rfl, rfl⟩

theorem many1_eq_none {kind : Char → Bool} {text : List Char}
    (h : ∀ c ∈ text.head?, kind c = false) : many1 kind text = none := by
  cases text with
  | nil => rfl
  | cons c rest =>
      have hc : kind c = false := h c rfl
      rw [many1, bind_eq_none_iff]
      intro first mid hfirst
      obtain ⟨heq, hkind⟩ := satisfying_eq_some_iff.1 hfirst
      obtain ⟨rfl, rfl⟩ := List.cons.inj heq
      rw [hc] at hkind
      contradiction

/-- The reader of names takes a name, up to the first character that a name does not go on
with. -/
theorem name_eq_some_iff {text taken back : List Char} :
    name text = some (taken, back) ↔
      text = taken ++ back ∧ isName taken = true ∧ ∀ c ∈ back.head?, continuesName c = false := by
  simp only [name, bind_eq_some_iff, many1_eq_some_iff, many_eq_some_iff, pure_eq_some_iff]
  constructor
  · rintro ⟨first, mid, ⟨rfl, hne, hfirst, -⟩, others, rest, ⟨rfl, hothers, hrest⟩, rfl, rfl⟩
    refine ⟨by rw [List.append_assoc], ?_, hrest⟩
    cases first with
    | nil => exact absurd rfl hne
    | cons c first =>
        simp only [isName, List.cons_append, List.all_append, Bool.and_eq_true, List.all_eq_true]
        exact ⟨hfirst c List.mem_cons_self, fun d hd =>
          Text.continuesName_of_startsName (hfirst d (List.mem_cons_of_mem c hd)), hothers⟩
  · rintro ⟨rfl, hname, hback⟩
    -- The first run of letters may end inside the name; what is left of the name is then taken
    -- by the second run.
    have hall := Text.all_continuesName_of_isName hname
    have hletter : ∀ c ∈ back.head?, startsName c = false := by
      intro c hc
      by_contra hstart
      have := Text.continuesName_of_startsName (Bool.not_eq_false _ ▸ hstart)
      rw [hback c hc] at this
      contradiction
    refine ⟨taken.takeWhile startsName, taken.dropWhile startsName ++ back, ⟨?_, ?_, ?_, ?_⟩,
      taken.dropWhile startsName, back, ⟨rfl, ?_, hback⟩, ?_, rfl⟩
    · rw [← List.append_assoc, List.takeWhile_append_dropWhile]
    · cases taken with
      | nil => exact absurd rfl (Text.ne_nil_of_isName hname)
      | cons c others =>
          have hc : startsName c = true := (Bool.and_eq_true_iff.1 hname).1
          rw [List.takeWhile_cons, if_pos hc]
          exact List.cons_ne_nil _ _
    · exact fun c hc => List.mem_takeWhile_imp hc
    · rw [← Text.dropWhile_append_of_head? hletter]
      exact Text.head?_dropWhile_eq_false startsName (taken ++ back)
    · exact fun c hc => hall c ((List.dropWhile_sublist _).subset hc)
    · exact List.takeWhile_append_dropWhile.symm

/-! ### Readers one after the other -/

theorem bind_of_eq_some {reader : Reader α} {text back : List Char} {value : α}
    (h : reader text = some (value, back)) (next : α → Reader β) :
    (reader >>= next) text = next value back := by
  show (reader text).bind _ = _
  rw [h]
  rfl

theorem bind_of_eq_none {reader : Reader α} {text : List Char} (h : reader text = none)
    (next : α → Reader β) : (reader >>= next) text = none := by
  show (reader text).bind _ = _
  rw [h]
  rfl

theorem whole_eq_some_iff {reader : Reader α} {text : List Char} {value : α} :
    whole reader text = some value ↔ reader text = some (value, []) := by
  unfold whole
  split
  · rename_i found hfound
    simp [hfound]
  · rename_i hnot
    constructor
    · intro h
      contradiction
    · intro h
      exact absurd h (hnot value)

theorem whole_of_eq_none {reader : Reader α} {text : List Char} (h : reader text = none) :
    whole reader text = none := by
  unfold whole
  rw [h]

theorem or_of_eq_some {first : Reader α} {text : List Char} {found : α × List Char}
    (h : first text = some found) (second : Reader α) : Reader.or first second text = some found := by
  unfold Reader.or
  rw [h]

theorem or_of_eq_none {first : Reader α} {text : List Char} (h : first text = none)
    (second : Reader α) : Reader.or first second text = second text := by
  unfold Reader.or
  rw [h]

theorem or_eq_some {first second : Reader α} {text : List Char} {found : α × List Char}
    (h : Reader.or first second text = some found) :
    first text = some found ∨ second text = some found := by
  cases hfirst : first text with
  | some taken =>
      rw [or_of_eq_some hfirst] at h
      exact .inl h
  | none =>
      rw [or_of_eq_none hfirst] at h
      exact .inr h

theorem maybe_of_eq_some {reader : Reader α} {text back : List Char} {value : α}
    (h : reader text = some (value, back)) : maybe reader text = some (some value, back) := by
  unfold maybe
  rw [h]

theorem maybe_of_eq_none {reader : Reader α} {text : List Char} (h : reader text = none) :
    maybe reader text = some (none, text) := by
  unfold maybe
  rw [h]

/-- Where a reader need not read anything, it is asked for all the same. -/
theorem maybe_eq_some_iff {reader : Reader α} {text back : List Char} {found : Option α} :
    maybe reader text = some (found, back) ↔
      (∃ value, found = some value ∧ reader text = some (value, back)) ∨
        found = none ∧ text = back ∧ reader text = none := by
  unfold maybe
  cases hread : reader text with
  | none => simp [eq_comm]
  | some taken =>
      obtain ⟨value, rest⟩ := taken
      simp only [Option.some.injEq, Prod.mk.injEq, reduceCtorEq, and_false, or_false]
      constructor
      · rintro ⟨rfl, rfl⟩
        exact ⟨value, rfl, rfl, rfl⟩
      · rintro ⟨_, rfl, rfl, rfl⟩
        exact ⟨rfl, rfl⟩

theorem maybe_satisfying_eq_some {kind : Char → Bool} {text back : List Char} {found : Option Char}
    (h : maybe (satisfying kind) text = some (found, back)) :
    text = found.toList ++ back ∧ ∀ c ∈ found, kind c = true := by
  rcases maybe_eq_some_iff.1 h with ⟨c, rfl, hread⟩ | ⟨rfl, rfl, -⟩
  · obtain ⟨rfl, hkind⟩ := satisfying_eq_some_iff.1 hread
    refine ⟨rfl, ?_⟩
    rintro _ ⟨rfl⟩
    exact hkind
  · exact ⟨rfl, by simp⟩

theorem filterMap_of_eq_some {reader : Reader α} {check : α → Option β} {text back : List Char}
    {value : α} {result : β} (h : reader text = some (value, back))
    (hcheck : check value = some result) :
    filterMap reader check text = some (result, back) := by
  rw [filterMap, bind_of_eq_some h, hcheck]
  rfl

theorem filterMap_eq_some_iff {reader : Reader α} {check : α → Option β} {text back : List Char}
    {result : β} :
    filterMap reader check text = some (result, back) ↔
      ∃ value, reader text = some (value, back) ∧ check value = some result := by
  constructor
  · intro h
    obtain ⟨value, mid, hread, hnext⟩ := bind_eq_some_iff.1 h
    cases hcheck : check value with
    | none =>
        rw [hcheck] at hnext
        contradiction
    | some found =>
        rw [hcheck] at hnext
        obtain ⟨rfl, rfl⟩ := pure_eq_some_iff.1 hnext
        exact ⟨value, hread, hcheck⟩
  · rintro ⟨value, hread, hcheck⟩
    exact filterMap_of_eq_some hread hcheck

theorem filterMap_of_refused {reader : Reader α} {check : α → Option β} {text back : List Char}
    {value : α} (h : reader text = some (value, back)) (hcheck : check value = none) :
    filterMap reader check text = none := by
  rw [filterMap, bind_of_eq_some h, hcheck]
  rfl

theorem filterMap_of_eq_none {reader : Reader α} {text : List Char} (h : reader text = none)
    (check : α → Option β) : filterMap reader check text = none :=
  bind_of_eq_none h _

theorem whole_filterMap {reader : Reader α} {text : List Char} {value : α}
    (h : reader text = some (value, [])) (check : α → Option β) :
    whole (filterMap reader check) text = check value := by
  cases hcheck : check value with
  | some result => exact whole_eq_some_iff.2 (filterMap_of_eq_some h hcheck)
  | none => exact whole_of_eq_none (filterMap_of_refused h hcheck)

theorem or_failure (reader : Reader α) : Reader.or reader failure = reader := by
  funext text
  unfold Reader.or
  cases reader text with
  | none => rfl
  | some found => rfl

/-- Readers that read nothing leave the choice to those behind them. -/
theorem foldr_or_of_eq_none {front : List (Reader α)} {text : List Char}
    (h : ∀ reader ∈ front, reader text = none) (back : List (Reader α)) :
    (front ++ back).foldr Reader.or failure text = back.foldr Reader.or failure text := by
  induction front with
  | nil => rfl
  | cons reader front ih =>
      obtain ⟨hreader, hfront⟩ := List.forall_mem_cons.1 h
      rw [List.cons_append, List.foldr_cons, or_of_eq_none hreader, ih hfront]

theorem exists_mem_of_foldr_or {readers : List (Reader α)} {text : List Char}
    {found : α × List Char} (h : readers.foldr Reader.or failure text = some found) :
    ∃ reader ∈ readers, reader text = some found := by
  induction readers with
  | nil => contradiction
  | cons first readers ih =>
      rcases or_eq_some h with hfirst | hothers
      · exact ⟨first, List.mem_cons_self, hfirst⟩
      · obtain ⟨reader, hmem, hreader⟩ := ih hothers
        exact ⟨reader, List.mem_cons_of_mem _ hmem, hreader⟩

/-! ### What is read, whatever the text -/

/-- All values that the reader gives have a property. -/
def Gives (reader : Reader α) (property : α → Prop) : Prop :=
  ∀ text value back, reader text = some (value, back) → property value

namespace Gives

variable {property : β → Prop}

theorem pure {value : β} (h : property value) : Gives (Pure.pure value) property := by
  intro text found back hread
  obtain ⟨rfl, -⟩ := pure_eq_some_iff.1 hread
  exact h

theorem bind {reader : Reader α} {next : α → Reader β} (h : ∀ value, Gives (next value) property) :
    Gives (reader >>= next) property := by
  intro text found back hread
  obtain ⟨value, mid, -, hnext⟩ := bind_eq_some_iff.1 hread
  exact h value mid found back hnext

theorem or {first second : Reader β} (hfirst : Gives first property)
    (hsecond : Gives second property) : Gives (Reader.or first second) property := by
  intro text found back hread
  rcases or_eq_some hread with hread | hread
  · exact hfirst text found back hread
  · exact hsecond text found back hread

/-- Whatever the check lets through is written in one way. -/
theorem filterMap_map {γ : Type} {reader : Reader α} {read : α → Option γ} {write : γ → β}
    (h : ∀ value, property (write value)) :
    Gives (filterMap reader fun taken => (read taken).map write) property := by
  intro text found back hread
  obtain ⟨taken, -, hfound⟩ := filterMap_eq_some_iff.1 hread
  obtain ⟨value, -, rfl⟩ := Option.map_eq_some_iff.1 hfound
  exact h value

end Gives

/-! ### Characters and words that are there, or not -/

theorem satisfying_cons {kind : Char → Bool} {c : Char} (h : kind c = true) (rest : List Char) :
    satisfying kind (c :: rest) = some (c, rest) :=
  if_pos h

theorem satisfying_eq_none {kind : Char → Bool} {text : List Char}
    (h : ∀ c ∈ text.head?, kind c = false) : satisfying kind text = none := by
  cases text with
  | nil => rfl
  | cons c rest => exact if_neg (by simp [h c rfl])

/-- One character of a class at most is taken where no further one follows. -/
theorem maybe_satisfying_append {kind : Char → Bool} {found : Option Char} {rest : List Char}
    (hfound : ∀ c ∈ found, kind c = true) (hrest : ∀ c ∈ rest.head?, kind c = false) :
    maybe (satisfying kind) (found.toList ++ rest) = some (found, rest) := by
  cases found with
  | none => exact maybe_of_eq_none (satisfying_eq_none hrest)
  | some c => exact maybe_of_eq_some (satisfying_cons (hfound c rfl) rest)

theorem char_cons (c : Char) (rest : List Char) : char c (c :: rest) = some (c, rest) :=
  satisfying_cons (decide_eq_true rfl) rest

theorem char_eq_none {c : Char} {text : List Char} (h : text.head? ≠ some c) :
    char c text = none := by
  refine satisfying_eq_none fun d hd => decide_eq_false ?_
  rintro rfl
  exact h hd

theorem word_append (front rest : List Char) : word front (front ++ rest) = some ((), rest) := by
  induction front with
  | nil => rfl
  | cons c front ih =>
      rw [word, List.cons_append, bind_of_eq_some (char_cons c _)]
      exact ih

theorem word_eq_some_iff {front text back : List Char} :
    word front text = some ((), back) ↔ text = front ++ back := by
  constructor
  · intro h
    induction front generalizing text with
    | nil => exact (pure_eq_some_iff.1 h).2
    | cons c front ih =>
        simp only [word, bind_eq_some_iff, char_eq_some_iff] at h
        obtain ⟨_, mid, ⟨rfl, -⟩, hmid⟩ := h
        rw [ih hmid, List.cons_append]
  · rintro rfl
    exact word_append front back

/-- A word is read where the text begins with it, whatever goes on behind it. -/
theorem word_eq_none_iff {front text : List Char} :
    word front text = none ↔ ¬ front <+: text := by
  constructor
  · rintro h ⟨back, rfl⟩
    rw [word_append] at h
    contradiction
  · intro h
    cases hread : word front text with
    | none => rfl
    | some found => exact absurd ⟨found.2, (word_eq_some_iff.1 hread).symm⟩ h

/-- A word is not read where one of its characters is missing. -/
theorem word_eq_none {front text : List Char} {c : Char} (hc : c ∈ front) (h : c ∉ text) :
    word front text = none :=
  word_eq_none_iff.2 fun hfront => h (hfront.subset hc)

/-! ### Characters of a class, a number of them -/

theorem exactly_append {kind : Char → Bool} {taken : List Char} {count : Nat}
    (hlength : taken.length = count) (hkind : ∀ c ∈ taken, kind c = true) (rest : List Char) :
    exactly count kind (taken ++ rest) = some (taken, rest) := by
  induction taken generalizing count with
  | nil =>
      subst hlength
      rfl
  | cons c taken ih =>
      subst hlength
      obtain ⟨hc, htaken⟩ := List.forall_mem_cons.1 hkind
      rw [List.length_cons, exactly, List.cons_append, bind_of_eq_some (satisfying_cons hc _),
        bind_of_eq_some (ih rfl htaken)]
      rfl

/-- Too few characters of a class stand in front of another one. -/
theorem exactly_eq_none {kind : Char → Bool} {front : List Char} {c : Char} {count : Nat}
    (hlength : front.length < count) (hc : kind c = false) (rest : List Char) :
    exactly count kind (front ++ c :: rest) = none := by
  induction front generalizing count with
  | nil =>
      obtain ⟨count, rfl⟩ := Nat.exists_eq_add_one_of_ne_zero (Nat.ne_of_gt hlength)
      exact bind_of_eq_none (satisfying_eq_none (by simpa using hc)) _
  | cons d front ih =>
      obtain ⟨count, rfl⟩ := Nat.exists_eq_add_one_of_ne_zero (Nat.ne_of_gt (Nat.zero_lt_of_lt hlength))
      rw [exactly, List.cons_append]
      by_cases hd : kind d = true
      · rw [bind_of_eq_some (satisfying_cons hd _),
          bind_of_eq_none (ih (Nat.lt_of_succ_lt_succ hlength))]
      · exact bind_of_eq_none (satisfying_eq_none (by simpa using hd)) _

theorem exactly_eq_some {kind : Char → Bool} {count : Nat} {text taken back : List Char}
    (h : exactly count kind text = some (taken, back)) : text = taken ++ back := by
  induction count generalizing text taken with
  | zero =>
      obtain ⟨rfl, rfl⟩ := pure_eq_some_iff.1 h
      rfl
  | succ count ih =>
      simp only [exactly, bind_eq_some_iff, satisfying_eq_some_iff, pure_eq_some_iff] at h
      obtain ⟨c, mid, ⟨rfl, -⟩, others, rest, hrest, rfl, rfl⟩ := h
      rw [ih hrest, List.cons_append]

/-- Nothing is read up to a character that the text does not have. -/
theorem exactly_char_eq_none {kind : Char → Bool} {count : Nat} {c : Char} {text : List Char}
    (h : c ∉ text) (next : List Char → Reader β) :
    (do let taken ← exactly count kind; let _ ← char c; next taken) text = none := by
  rw [bind_eq_none_iff]
  intro taken back htaken
  obtain rfl := exactly_eq_some htaken
  exact bind_of_eq_none (char_eq_none fun hhead =>
    h (List.mem_append_right taken (List.mem_of_head? hhead))) _

/-- As many characters of a class as are asked for at most are taken, whatever stands behind. -/
theorem between_append {kind : Char → Bool} {taken : List Char} {least most : Nat}
    (hleast : least ≤ most) (hlength : taken.length = most) (hkind : ∀ c ∈ taken, kind c = true)
    (rest : List Char) : between least most kind (taken ++ rest) = some (taken, rest) := by
  subst hlength
  have htaken : ((taken ++ rest).take taken.length).takeWhile kind = taken := by
    rw [List.take_left]
    exact List.takeWhile_eq_self_iff.2 hkind
  simp only [between, htaken, hleast, if_true, List.drop_left]

theorem many_append {kind : Char → Bool} {taken rest : List Char}
    (htaken : ∀ c ∈ taken, kind c = true) (hrest : ∀ c ∈ rest.head?, kind c = false) :
    many kind (taken ++ rest) = some (taken, rest) :=
  many_eq_some_iff.2 ⟨rfl, htaken, hrest⟩

theorem many1_append {kind : Char → Bool} {taken rest : List Char} (hne : taken ≠ [])
    (htaken : ∀ c ∈ taken, kind c = true) (hrest : ∀ c ∈ rest.head?, kind c = false) :
    many1 kind (taken ++ rest) = some (taken, rest) :=
  many1_eq_some_iff.2 ⟨rfl, hne, htaken, hrest⟩

/-! ### Names -/

theorem name_eq_none {text : List Char} (h : ∀ c ∈ text.head?, startsName c = false) :
    name text = none :=
  bind_of_eq_none (many1_eq_none h) _

/-- A qualified name has a dot. -/
theorem qualifiedName_eq_none {text : List Char} (h : '.' ∉ text) : qualifiedName text = none := by
  rw [qualifiedName, bind_eq_none_iff]
  intro first mid hname
  obtain ⟨rfl, -, -⟩ := name_eq_some_iff.1 hname
  have hdot : mid.head? ≠ some '.' := fun hhead =>
    h (List.mem_append_right first (List.mem_of_head? hhead))
  rw [bind_eq_none_iff]
  intro parts back hparts
  rw [plus, bind_of_eq_none (bind_of_eq_none (char_eq_none hdot) _)] at hparts
  contradiction

/-! ### Repeated reading -/

/-- `reader`, applied again and again from `text` on, takes `values` and arrives at `back`. -/
inductive Repeats (reader : Reader α) : List Char → List α → List Char → Prop
  | nil (text : List Char) : Repeats reader text [] text
  | cons {text mid back : List Char} {value : α} {values : List α}
      (hfirst : reader text = some (value, mid)) (hrest : Repeats reader mid values back) :
      Repeats reader text (value :: values) back

section Star

variable {reader : Reader α}
  (hshorter : ∀ text value mid, reader text = some (value, mid) → mid.length < text.length)
include hshorter

theorem loop_of_repeats {text back : List Char} {values : List α}
    (h : Repeats reader text values back) (hend : reader back = none) :
    star.loop reader text = (values, back) := by
  induction h with
  | nil text => rw [star.loop, hend]
  | cons hfirst hrest ih =>
      rw [star.loop, hfirst]
      simp only [hshorter _ _ _ hfirst, if_true, ih hend]

theorem repeats_loop (text : List Char) :
    Repeats reader text (star.loop reader text).1 (star.loop reader text).2 ∧
      reader (star.loop reader text).2 = none := by
  fun_induction star.loop reader text with
  | case1 text value mid hfirst _ values back hloop ih =>
      rw [hloop] at ih
      exact ⟨.cons hfirst ih.1, ih.2⟩
  | case2 text value mid hfirst hlong => exact absurd (hshorter _ _ _ hfirst) hlong
  | case3 text hend => exact ⟨.nil text, hend⟩

/-- Repeated reading stops where the reader fails, when each reading takes something. -/
theorem star_eq_some_iff {text back : List Char} {values : List α} :
    star reader text = some (values, back) ↔
      Repeats reader text values back ∧ reader back = none := by
  rw [star, Option.some.injEq]
  constructor
  · intro h
    have := repeats_loop hshorter text
    rw [h] at this
    exact this
  · rintro ⟨h, hend⟩
    exact loop_of_repeats hshorter h hend

theorem plus_eq_some_iff {text back : List Char} {values : List α} :
    plus reader text = some (values, back) ↔
      values ≠ [] ∧ Repeats reader text values back ∧ reader back = none := by
  simp only [plus, bind_eq_some_iff, star_eq_some_iff hshorter, pure_eq_some_iff]
  constructor
  · rintro ⟨value, mid, hfirst, others, rest, ⟨hrest, hend⟩, rfl, rfl⟩
    exact ⟨List.cons_ne_nil _ _, .cons hfirst hrest, hend⟩
  · rintro ⟨hne, hall, hend⟩
    cases hall with
    | nil => exact absurd rfl hne
    | cons hfirst hrest =>
        exact ⟨_, _, hfirst, _, _, ⟨hrest, hend⟩, rfl, rfl⟩

end Star

end Reader
end ResourcePaths
