import Mathlib.Data.List.Forall2
import ResourcePaths.Proofs.Outcome
import ResourcePaths.Proofs.Path.SegmentGrammar

/-!
# Chains of plain tokens

Raw segments without the mark of system tokens make up a chain exactly when each of them is in the
grammar; the tokens of the chain are then those that the segments write.
-/

namespace ResourcePaths

/-- A name that a plain token may have. -/
structure Token.IsPlainName (name : String) : Prop where
  isIdentifier : RawSegment.IsIdentifier name
  unmarked : name.toList.head? ≠ some Token.systemMark

/-- Names and dots make up the name of a plain token. -/
theorem Token.isPlainName_of_names {name : String} (hne : name.toList ≠ [])
    (hnames : ∀ c ∈ name.toList, Text.continuesName c = true ∨ c = '.') :
    Token.IsPlainName name := by
  refine ⟨⟨hne, fun c hc => ?_⟩, fun hmark => ?_⟩
  · have hparenthesis : c ≠ '(' ∧ c ≠ ')' := by
      constructor <;> rintro rfl <;> exact absurd (hnames _ hc) (by decide)
    exact Bool.and_eq_true_iff.2
      ⟨decide_eq_true hparenthesis.1, decide_eq_true hparenthesis.2⟩
  · exact absurd (hnames _ (List.mem_of_head? hmark)) (by decide)

theorem Token.isPlainName_of_isName {name : String} (h : Text.isName name.toList = true) :
    Token.IsPlainName name :=
  Token.isPlainName_of_names (Text.ne_nil_of_isName h) fun c hc =>
    .inl (Text.all_continuesName_of_isName h c hc)

namespace Chain

/-- A text that writes a plain token. -/
def Spells (text : String) (token : Token) : Prop :=
  ∃ identifier values, RawSegment.Writes text ⟨identifier, values⟩ ∧
    identifier.toList.head? ≠ some Token.systemMark ∧ token = .plain identifier values

/-- What a text can spell: a plain name, and values that can be written. -/
theorem isPlainName_of_spells {text : String} {token : Token} (h : Spells text token) :
    Token.IsPlainName token.identifier ∧ ∀ value ∈ token.values, value.IsWritable := by
  obtain ⟨identifier, values, hwrites, hmark, rfl⟩ := h
  cases hwrites with
  | bare _ hidentifier => exact ⟨⟨hidentifier, hmark⟩, List.forall_mem_nil _⟩
  | listed _ _ hidentifier hvalues => exact ⟨⟨hidentifier, hmark⟩, hvalues⟩

/-- A plain token is spelled by its own text. -/
theorem spells_render {identifier : String} {values : List NamedValue}
    (hname : Token.IsPlainName identifier) (hvalues : ∀ value ∈ values, value.IsWritable) :
    Spells (Token.plain identifier values).render (.plain identifier values) :=
  ⟨identifier, values, RawSegment.writes_render hname.isIdentifier hvalues, hname.unmarked, rfl⟩

theorem head?_of_spells {text : String} {token : Token} (h : Spells text token) :
    text.toList.head? ≠ some Token.systemMark := by
  obtain ⟨identifier, values, hwrites, hmark, -⟩ := h
  have hsystem := RawSegment.isSystem_of_writes hwrites
  rw [RawSegment.isSystem_eq_false_iff.2 hmark] at hsystem
  exact of_decide_eq_false hsystem.symm

theorem head?_of_forall₂_spells {texts : List String} {tokens : List Token}
    (h : List.Forall₂ Spells texts tokens) :
    ∀ text ∈ texts, text.toList.head? ≠ some Token.systemMark := by
  induction h with
  | nil => simp
  | cons hspells _ ih => exact List.forall_mem_cons.2 ⟨head?_of_spells hspells, ih⟩

theorem isPlainName_of_forall₂_spells {texts : List String} {tokens : List Token}
    (h : List.Forall₂ Spells texts tokens) :
    ∀ token ∈ tokens, Token.IsPlainName token.identifier ∧
      ∀ value ∈ token.values, value.IsWritable := by
  induction h with
  | nil => simp
  | cons hspells _ ih => exact List.forall_mem_cons.2 ⟨isPlainName_of_spells hspells, ih⟩

/-- A chain of plain tokens alone. -/
def IsPlain (chain : Chain) : Prop :=
  ∀ token ∈ chain.tokens, ∃ identifier values, token = .plain identifier values

/-- Behind plain tokens there is room for any chain. -/
theorem append_of_isPlain {chain : Chain} (added : Chain) (h : chain.IsPlain) :
    ∃ result, chain.append added = .ok result ∧ result.tokens = chain.tokens ++ added.tokens := by
  induction chain with
  | empty => exact ⟨added, rfl, rfl⟩
  | system identifier next ih =>
      obtain ⟨_, _, heq⟩ := h _ List.mem_cons_self
      contradiction
  | plain identifier values next ih =>
      obtain ⟨result, hresult, htokens⟩ := ih fun token hmem => h token (List.mem_cons_of_mem _ hmem)
      refine ⟨.plain identifier values result, ?_, ?_⟩
      · rw [append, hresult]
        rfl
      · rw [tokens, htokens]
        rfl
  | ending identifier context ih =>
      obtain ⟨_, _, heq⟩ := h _ List.mem_cons_self
      contradiction

/-- One more plain token behind a chain of plain tokens. -/
theorem append_toChain {chain : Chain} (h : chain.IsPlain) (identifier : String)
    (values : List NamedValue) :
    ∃ result, chain.append (Token.plain identifier values).toChain = .ok result ∧
      result.tokens = chain.tokens ++ [.plain identifier values] ∧ result.IsPlain := by
  obtain ⟨result, hresult, htokens⟩ :=
    append_of_isPlain (Token.plain identifier values).toChain h
  refine ⟨result, hresult, htokens, fun token hmem => ?_⟩
  rw [htokens] at hmem
  rcases List.mem_append.1 hmem with hmem | hmem
  · exact h token hmem
  · exact ⟨identifier, values, List.mem_singleton.1 hmem⟩

theorem appendSegments_complete {chain : Chain} {texts : List String} {tokens : List Token}
    (h : chain.IsPlain) (hspells : List.Forall₂ Spells texts tokens) :
    ∃ result, chain.appendSegments texts = .ok result ∧
      result.tokens = chain.tokens ++ tokens := by
  induction hspells generalizing chain with
  | nil => exact ⟨chain, rfl, (List.append_nil _).symm⟩
  | @cons text token texts tokens hspells _ ih =>
      obtain ⟨identifier, values, hwrites, hmark, rfl⟩ := hspells
      obtain ⟨next, hnext, htokens, hplain⟩ := append_toChain h identifier values
      obtain ⟨result, hresult, hall⟩ := ih hplain
      refine ⟨result, ?_, ?_⟩
      · have htoken : (RawSegment.mk identifier values).toToken = .plain identifier values :=
          RawSegment.toToken_of_isSystem_eq_false (RawSegment.isSystem_eq_false_iff.2 hmark)
        rw [appendSegments, Outcome.bind_eq_ok_iff]
        refine ⟨_, RawSegment.ofText_of_writes hwrites, ?_⟩
        rw [htoken, Outcome.bind_eq_ok_iff]
        exact ⟨next, hnext, hresult⟩
      · rw [hall, htokens, List.append_assoc]
        rfl

theorem appendSegments_sound {chain result : Chain} {texts : List String} (h : chain.IsPlain)
    (hmarks : ∀ text ∈ texts, text.toList.head? ≠ some Token.systemMark)
    (hresult : chain.appendSegments texts = .ok result) :
    ∃ tokens, List.Forall₂ Spells texts tokens ∧ result.tokens = chain.tokens ++ tokens := by
  induction texts generalizing chain with
  | nil =>
      obtain rfl := Except.ok.inj hresult
      exact ⟨[], .nil, (List.append_nil _).symm⟩
  | cons text texts ih =>
      obtain ⟨hmark, hmarks⟩ := List.forall_mem_cons.1 hmarks
      rw [appendSegments, Outcome.bind_eq_ok_iff] at hresult
      obtain ⟨⟨identifier, values⟩, hsegment, hresult⟩ := hresult
      have hwrites := RawSegment.writes_of_ofText hsegment
      have hsystem : (RawSegment.mk identifier values).isSystem = false := by
        rw [RawSegment.isSystem_of_writes hwrites]
        exact decide_eq_false hmark
      rw [RawSegment.toToken_of_isSystem_eq_false hsystem, Outcome.bind_eq_ok_iff] at hresult
      obtain ⟨next, hnext, hresult⟩ := hresult
      obtain ⟨found, hfound, htokens, hplain⟩ := append_toChain h identifier values
      rw [hfound] at hnext
      obtain rfl := Except.ok.inj hnext
      obtain ⟨tokens, hspells, hall⟩ := ih hplain hmarks hresult
      refine ⟨.plain identifier values :: tokens, .cons ?_ hspells, ?_⟩
      · exact ⟨identifier, values, hwrites, RawSegment.isSystem_eq_false_iff.1 hsystem, rfl⟩
      · rw [hall, htokens, List.append_assoc]
        rfl

end Chain

end ResourcePaths
