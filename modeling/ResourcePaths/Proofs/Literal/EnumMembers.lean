import ResourcePaths.Proofs.Literal.Reading

/-!
# Enumeration members

An enumeration member is written as the qualified name of its type with the member between quotes
behind it.  Before this form, words are tried, and a word is read at the front of a text whatever
goes on behind it.  So a member whose type has a name that begins with `null`, `true` or `false` is
taken for that word with something behind it, and is no literal; every other member is read back.
-/

namespace ResourcePaths

/-- A qualified name: two names or more, with dots between. -/
structure QualifiedName where
  parts : List String
  two_le_length : 2 ≤ parts.length
  isName : ∀ part ∈ parts, Text.isName part.toList = true

namespace QualifiedName

def write (name : QualifiedName) : String :=
  Text.joined "." name.parts

/-- A first name, and others with a dot in front of each. -/
theorem exists_write_eq (name : QualifiedName) :
    ∃ first others, others ≠ [] ∧ Text.isName first = true ∧
      (∀ part ∈ others, Text.isName part = true) ∧
      name.write.toList = first ++ others.flatMap ('.' :: ·) := by
  obtain ⟨parts, hlength, hname⟩ := name
  match parts, hlength with
  | first :: second :: others, _ =>
      obtain ⟨hfirst, hothers⟩ := List.forall_mem_cons.1 hname
      refine ⟨first.toList, (second :: others).map String.toList, List.cons_ne_nil _ _, hfirst,
        List.forall_mem_map.2 hothers, ?_⟩
      rw [write, Text.joined, String.toList_intercalate]
      exact Text.intercalate_cons '.' first.toList _

theorem dot_mem_write (name : QualifiedName) : '.' ∈ name.write.toList := by
  obtain ⟨first, others, hne, -, -, hwrite⟩ := name.exists_write_eq
  obtain ⟨part, others, rfl⟩ := List.exists_cons_of_ne_nil hne
  rw [hwrite]
  exact List.mem_append_right _ List.mem_cons_self

theorem quote_notMem_write (name : QualifiedName) : '\'' ∉ name.write.toList := by
  have hpart {part : List Char} (h : Text.isName part = true) : '\'' ∉ part := fun hquote =>
    absurd (Text.all_continuesName_of_isName h '\'' hquote) (by decide)
  obtain ⟨first, others, -, hfirst, hothers, hwrite⟩ := name.exists_write_eq
  rw [hwrite, List.mem_append, List.mem_flatMap]
  rintro (hmem | ⟨part, hpartmem, hmem⟩)
  · exact hpart hfirst hmem
  · rcases List.mem_cons.1 hmem with hdot | hmem
    · contradiction
    · exact hpart (hothers part hpartmem) hmem

end QualifiedName

namespace Reader

/-! ### Reading a qualified name -/

/-- A dot and a name behind it. -/
def nextName : Reader (List Char) := do
  let _ ← char '.'
  let part ← name
  pure ('.' :: part)

theorem nextName_append {part rest : List Char} (hpart : Text.isName part = true)
    (hrest : ∀ c ∈ rest.head?, Text.continuesName c = false) :
    nextName ('.' :: part ++ rest) = some ('.' :: part, rest) := by
  rw [nextName, List.cons_append, bind_of_eq_some (char_cons '.' _),
    bind_of_eq_some (name_eq_some_iff.2 ⟨rfl, hpart, hrest⟩)]
  rfl

theorem nextName_shorter (text part back : List Char) (h : nextName text = some (part, back)) :
    back.length < text.length := by
  simp only [nextName, bind_eq_some_iff, char_eq_some_iff, name_eq_some_iff, pure_eq_some_iff] at h
  obtain ⟨_, _, ⟨rfl, -⟩, _, _, ⟨rfl, -⟩, -, rfl⟩ := h
  simp only [List.length_cons, List.length_append]
  omega

/-- A character that no name goes on with stands behind each name. -/
theorem head?_flatMap_dot (others : List (List Char)) {rest : List Char}
    (hrest : ∀ c ∈ rest.head?, Text.continuesName c = false) :
    ∀ c ∈ (others.flatMap ('.' :: ·) ++ rest).head?, Text.continuesName c = false := by
  cases others with
  | nil => exact hrest
  | cons part others =>
      rintro c ⟨rfl⟩
      decide

theorem repeats_nextName {others : List (List Char)} {rest : List Char}
    (hothers : ∀ part ∈ others, Text.isName part = true)
    (hrest : ∀ c ∈ rest.head?, Text.continuesName c = false) :
    Repeats nextName (others.flatMap ('.' :: ·) ++ rest) (others.map ('.' :: ·)) rest := by
  induction others with
  | nil => exact .nil _
  | cons part others ih =>
      obtain ⟨hpart, hothers⟩ := List.forall_mem_cons.1 hothers
      rw [List.flatMap_cons, List.append_assoc, List.map_cons]
      exact .cons (nextName_append hpart (head?_flatMap_dot others hrest)) (ih hothers)

/-- A qualified name is read up to a character that is neither a dot nor one of a name. -/
theorem qualifiedName_write (name : QualifiedName) {rest : List Char}
    (hrest : ∀ c ∈ rest.head?, Text.continuesName c = false) (hdot : rest.head? ≠ some '.') :
    qualifiedName (name.write.toList ++ rest) = some (name.write.toList, rest) := by
  obtain ⟨first, others, hne, hfirst, hothers, hwrite⟩ := name.exists_write_eq
  have hread : Reader.name (first ++ (others.flatMap ('.' :: ·) ++ rest)) =
      some (first, others.flatMap ('.' :: ·) ++ rest) :=
    name_eq_some_iff.2 ⟨rfl, hfirst, head?_flatMap_dot others hrest⟩
  have hend : nextName rest = none := bind_of_eq_none (char_eq_none hdot) _
  have hplus : plus nextName (others.flatMap ('.' :: ·) ++ rest) =
      some (others.map ('.' :: ·), rest) :=
    (plus_eq_some_iff nextName_shorter).2
      ⟨by simpa using hne, repeats_nextName hothers hrest, hend⟩
  rw [hwrite, List.append_assoc, qualifiedName, bind_of_eq_some hread]
  show (plus nextName >>= fun rest => pure (first ++ rest.flatten)) _ = _
  rw [bind_of_eq_some hplus, List.flatMap_def]
  rfl

end Reader

namespace Literal

open Reader (word)

/-! ### Words in front of a text -/

/-- The words that are literals by themselves. -/
def words : List String :=
  ["null", "true", "false"]

/-- Whether one of the words stands at the front of a text. -/
def BeginsWithWord (text : String) : Prop :=
  ∃ word ∈ words, word.toList <+: text.toList

theorem nullForm_eq_none {text : List Char} (h : ¬ "null".toList <+: text) :
    nullForm text = none :=
  Reader.bind_of_eq_none (Reader.word_eq_none_iff.2 h) _

theorem booleanForm_eq_none {text : List Char} (htrue : ¬ "true".toList <+: text)
    (hfalse : ¬ "false".toList <+: text) : booleanForm text = none := by
  rw [booleanForm, Reader.or_of_eq_none (Reader.bind_of_eq_none (Reader.word_eq_none_iff.2 htrue) _)]
  exact Reader.bind_of_eq_none (Reader.word_eq_none_iff.2 hfalse) _

/-- Only a quote right behind its mark makes a duration. -/
theorem durationForm_eq_none {text : List Char} (h : ¬ "duration'".toList <+: text) :
    durationForm text = none := by
  rw [durationForm, Reader.bind_eq_none_iff]
  intro _ rest hword
  obtain rfl := Reader.word_eq_some_iff.1 hword
  refine Reader.bind_of_eq_none (Reader.bind_of_eq_none ?_ _) _
  cases rest with
  | nil => rfl
  | cons c rest =>
      rw [Quoted.read?]
      rintro _ heq
      obtain ⟨rfl, rfl⟩ := List.cons.inj heq
      exact h ⟨_, rfl⟩

/-- A text that a form reads in part is no literal, when the forms before it read nothing. -/
theorem ofText?_of_part {text : List Char} (front : List (Reader Literal))
    {back : List (Reader Literal)} {form : Reader Literal} {literal : Literal} {rest : List Char}
    (hforms : forms = front ++ form :: back) (hfront : ∀ other ∈ front, other text = none)
    (hform : form text = some (literal, rest)) (hrest : rest ≠ []) :
    ofText? (String.ofList text) = none := by
  have hread : reader text = some (literal, rest) := by
    rw [reader, hforms, Reader.foldr_or_of_eq_none hfront, List.foldr_cons]
    exact Reader.or_of_eq_some hform _
  rw [ofText?, String.toList_ofList, Reader.whole, hread]
  cases rest with
  | nil => contradiction
  | cons c rest => rfl

/-- No text goes on behind one of the words. -/
theorem ofText?_of_word {text : List Char} {word : String} (hword : word ∈ words)
    {c : Char} {rest : List Char} (htext : text = word.toList ++ c :: rest) :
    ofText? (String.ofList text) = none := by
  have hread (literal : Literal) {found : String} (hfound : text = found.toList ++ c :: rest) :
      (do Reader.word found.toList; pure literal : Reader Literal) text =
        some (literal, c :: rest) := by
    rw [hfound, Reader.bind_of_eq_some (Reader.word_append _ _)]
    rfl
  simp only [words, List.mem_cons, List.not_mem_nil, or_false] at hword
  rcases hword with rfl | rfl | rfl
  · exact ofText?_of_part [] rfl (List.forall_mem_nil _) (hread null htext)
      (List.cons_ne_nil _ _)
  · have hnull : nullForm text = none := by
      rw [htext]
      rfl
    have hform : booleanForm text = some (boolean true, c :: rest) :=
      Reader.or_of_eq_some (hread (boolean true) htext) _
    exact ofText?_of_part [nullForm] rfl (List.forall_mem_singleton.2 hnull) hform
      (List.cons_ne_nil _ _)
  · have hnull : nullForm text = none := by
      rw [htext]
      rfl
    have htrue : (do Reader.word "true".toList; pure (boolean true) : Reader Literal) text = none := by
      rw [htext]
      rfl
    have hform : booleanForm text = some (boolean false, c :: rest) := by
      rw [booleanForm, Reader.or_of_eq_none htrue]
      exact hread (boolean false) htext
    exact ofText?_of_part [nullForm] rfl (List.forall_mem_singleton.2 hnull) hform
      (List.cons_ne_nil _ _)

/-! ### Members of qualified types -/

section Member

variable (name : QualifiedName) (member : String)

/-- The text of a member: the name of its type, and the member between quotes. -/
def enumText : List Char :=
  name.write.toList ++ quote member

theorem enumForm_enumText :
    enumForm (enumText name member) = some (enum name.write member, []) := by
  have hname : Reader.qualifiedName (enumText name member) =
      some (name.write.toList, quote member) := by
    refine Reader.qualifiedName_write name ?_ (by simp [quote, Quoted.write])
    rintro c ⟨rfl⟩
    decide
  rw [enumForm, Reader.bind_of_eq_some hname, Reader.bind_of_eq_some (quoted_quote member),
    String.ofList_toList]
  rfl

/-- What stands at the front of the text and has no dot stands at the front of the name. -/
theorem front_write_of_front {word : List Char} (hdot : '.' ∉ word)
    (h : word <+: enumText name member) : word <+: name.write.toList := by
  rcases List.prefix_or_prefix_of_prefix h (List.prefix_append _ _) with hword | hname
  · exact hword
  · exact absurd (hname.subset name.dot_mem_write) hdot

theorem front_enumText (h : ¬ BeginsWithWord name.write) :
    ∀ form ∈ [nullForm, booleanForm, durationForm, stringForm],
      form (enumText name member) = none := by
  have hword {word : String} (hmem : word ∈ words) (hdot : '.' ∉ word.toList) :
      ¬ word.toList <+: enumText name member :=
    fun hfront => h ⟨word, hmem, front_write_of_front name member hdot hfront⟩
  have hquoted (front : List Char) (hdot : '.' ∉ front) (hquote : '\'' ∈ front) :
      ¬ front <+: enumText name member :=
    fun hfront => name.quote_notMem_write
      ((front_write_of_front name member hdot hfront).subset hquote)
  have hduration : ¬ "duration'".toList <+: enumText name member :=
    hquoted _ (by decide) (by decide)
  have hstring : (enumText name member).head? ≠ some '\'' := by
    intro hhead
    obtain ⟨rest, hrest⟩ := List.head?_eq_some_iff.1 hhead
    exact hquoted ['\''] (by decide) (List.mem_singleton_self _) ⟨rest, hrest.symm⟩
  simp only [List.forall_mem_cons, List.not_mem_nil, IsEmpty.forall_iff, implies_true, and_true]
  exact ⟨nullForm_eq_none (hword (by decide) (by decide)),
    booleanForm_eq_none (hword (by decide) (by decide)) (hword (by decide) (by decide)),
    durationForm_eq_none hduration, stringForm_eq_none hstring⟩

end Member

/-- A member is read back exactly if the name of its type does not begin with one of the words; if
it does, the text is no literal. -/
theorem ofText?_enum (name : QualifiedName) (member : String) :
    (ofText? (String.ofList (enumText name member)) = some (enum name.write member) ↔
        ¬ BeginsWithWord name.write) ∧
      (ofText? (String.ofList (enumText name member)) = none ↔ BeginsWithWord name.write) := by
  have hread (h : ¬ BeginsWithWord name.write) :
      ofText? (String.ofList (enumText name member)) = some (enum name.write member) :=
    ofText?_of_form (by rfl) (front_enumText name member h) (enumForm_enumText name member)
  have hrefused (h : BeginsWithWord name.write) :
      ofText? (String.ofList (enumText name member)) = none := by
    obtain ⟨word, hword, rest, hrest⟩ := h
    -- The member goes on behind the word, so there always is a rest.
    obtain ⟨c, others, hothers⟩ : ∃ c others, rest ++ quote member = c :: others :=
      List.exists_cons_of_ne_nil (by simp [quote, Quoted.write])
    have htext : enumText name member = word.toList ++ c :: others := by
      rw [enumText, ← hrest, List.append_assoc, hothers]
    exact ofText?_of_word hword htext
  constructor
  · constructor
    · intro hsome h
      rw [hrefused h] at hsome
      contradiction
    · exact hread
  · constructor
    · intro hnone
      by_contra h
      rw [hread h] at hnone
      contradiction
    · exact hrefused

example : ofText? "duration.Unit'Day'" = some (.enum "duration.Unit" "Day") := by decide +kernel

/-- The qualified name of a colour in a namespace that begins with a word. -/
def nullableColor : QualifiedName where
  parts := ["nullable", "Color"]
  two_le_length := by decide
  isName := by decide +kernel

/-- Not every member is read back. -/
theorem not_ofText?_enum :
    ¬ ∀ (name : QualifiedName) (member : String),
      ofText? (String.ofList (enumText name member)) = some (enum name.write member) := by
  intro h
  have hred := h nullableColor "Red"
  revert hred
  decide +kernel

end Literal
end ResourcePaths
