import Mathlib.Data.List.TakeWhile
import ResourcePaths.Proofs.Path.Edits
import ResourcePaths.Proofs.Path.PlainChains

/-!
# Edits of token lists

A chain is determined by the list of its tokens, and the edits in place are operations on this list.
Linking at the end is concatenation, as long as the way there leads over plain tokens; severing
takes the tokens in front of the first wildcard.  An edit that cannot be made names the token that
stands in its way and leaves the list as it is.
-/

namespace ResourcePaths

/-- A plain token. -/
def Token.IsPlain (token : Token) : Prop :=
  ∃ identifier values, token = .plain identifier values

/-- A token behind which nothing can be linked, and the fault that names it. -/
inductive Token.Bars : Token → SyntaxError → Prop
  | system (identifier : String) : Bars (.system identifier) (.illegalSystemToken identifier)
  | ending (identifier : String) (context : Chain) :
      Bars (.ending identifier context) (.terminalToken identifier)

theorem Token.isSystem_of_isWildcard {token : Token} (h : token.isWildcard = true) :
    token.isSystem = false := by
  cases token with
  | system => contradiction
  | plain | ending => rfl

theorem Edited.outcome_ofOutcome (chain other : Chain) (made : Except SyntaxError Chain) :
    (ofOutcome other made).outcome = (ofOutcome chain made).outcome ∧
      ((ofOutcome chain made).outcome = .ok () →
        (ofOutcome other made).chain = (ofOutcome chain made).chain) := by
  cases made with
  | ok edited => exact ⟨rfl, fun _ => rfl⟩
  | error fault => exact ⟨rfl, fun h => nomatch h⟩

namespace Chain

variable {chain other added : Chain}

/-! ### Lists of tokens -/

/-- Chains with the same tokens are the same. -/
theorem tokens_injective : Function.Injective tokens := by
  intro chain other h
  have hlinked := chain.ofTokens_tokens
  rw [h, ofTokens_tokens] at hlinked
  exact (Except.ok.inj hlinked).symm

theorem tokens_toChain (token : Token) : token.toChain.tokens = [token] := by
  cases token with
  | system | plain | ending => rfl

theorem startsWithWildcard_eq (chain : Chain) :
    chain.startsWithWildcard = chain.tokens.head?.any Token.isWildcard := by
  cases chain with
  | empty | system | plain | ending => rfl

theorem firstSystem?_eq (chain : Chain) :
    chain.firstSystem? = (chain.tokens.find? Token.isSystem).map Token.identifier := by
  induction chain with
  | empty | system | ending => rfl
  | plain identifier values next ih => exact ih

theorem firstSystem?_eq_none_iff :
    chain.firstSystem? = none ↔ ∀ token ∈ chain.tokens, token.isSystem = false := by
  rw [firstSystem?_eq, Option.map_eq_none_iff, List.find?_eq_none]
  simp only [Bool.not_eq_true]

theorem isSome_firstSystem?_iff :
    chain.firstSystem?.isSome = true ↔ ∃ token ∈ chain.tokens, token.isSystem = true := by
  rw [firstSystem?_eq, Option.isSome_map, List.find?_isSome]

theorem firstSystem?_of_tokens {front back : List Token} {identifier : String}
    (htokens : chain.tokens = front ++ .system identifier :: back)
    (hfront : ∀ token ∈ front, token.isSystem = false) : chain.firstSystem? = some identifier := by
  have hfound : chain.tokens.find? Token.isSystem = some (.system identifier) := by
    refine List.find?_eq_some_iff_append.2 ⟨rfl, front, back, htokens, fun token hmem => ?_⟩
    rw [hfront token hmem]
    rfl
  rw [firstSystem?_eq, hfound]
  rfl

/-! ### Linking at the end -/

/-- Where a token is not plain, the first such token stands in the way of what is to be linked. -/
theorem append_of_not_isPlain (hadded : added ≠ empty) (h : ¬ chain.IsPlain) :
    ∃ front token back error, chain.tokens = front ++ token :: back ∧
      (∀ earlier ∈ front, earlier.IsPlain) ∧ token.Bars error ∧
      chain.append added = .error error := by
  induction chain with
  | empty => exact absurd (List.forall_mem_nil _) h
  | system identifier next =>
      exact ⟨[], _, next.tokens, _, rfl, List.forall_mem_nil _, .system identifier, rfl⟩
  | plain identifier values next ih =>
      have hplain : Token.IsPlain (.plain identifier values) := ⟨identifier, values, rfl⟩
      have hnext : ¬ next.IsPlain := fun hnext => h (List.forall_mem_cons.2 ⟨hplain, hnext⟩)
      obtain ⟨front, token, back, error, htokens, hfront, hbars, herror⟩ := ih hnext
      refine ⟨.plain identifier values :: front, token, back, error, ?_, ?_, hbars, ?_⟩
      · rw [tokens, htokens, List.cons_append]
      · exact List.forall_mem_cons.2 ⟨hplain, hfront⟩
      · rw [append, herror]
        rfl
  | ending identifier context =>
      refine ⟨[], _, [], _, rfl, List.forall_mem_nil _, .ending identifier context, ?_⟩
      rw [append, if_neg hadded]

/-- A system token anywhere stands in the way of whatever is to be linked. -/
theorem append_of_system {identifier : String} (h : chain.firstSystem? = some identifier)
    (added : Chain) : chain.append added = .error (.illegalSystemToken identifier) := by
  induction chain with
  | empty | ending => contradiction
  | system own next =>
      obtain rfl := Option.some.inj h
      rfl
  | plain own values next ih =>
      rw [append, ih h]
      rfl

/-- With nothing to link, only a system token stands in the way. -/
theorem append_empty (h : chain.firstSystem? = none) : chain.append empty = .ok chain := by
  induction chain with
  | empty | ending => rfl
  | system => contradiction
  | plain identifier values next ih =>
      rw [append, ih h]
      rfl

/-- Linking a token, with all that it links to, at the end of a chain is concatenation of the lists
of tokens where the chain has plain tokens only.  Otherwise it fails, and the chain is as it was;
the fault names the first token that is not plain.  With nothing to link, the walk never changes the
chain, and fails exactly if there is a system token. -/
theorem linkAtEnd_concatenates (chain added : Chain) (hadded : added ≠ empty) :
    let edited := chain.linkAtEnd added
    let walked := chain.linkAtEnd empty
    (chain.IsPlain →
      edited.outcome = .ok () ∧ edited.chain.tokens = chain.tokens ++ added.tokens) ∧
    (¬ chain.IsPlain →
      ∃ front token back error, chain.tokens = front ++ token :: back ∧
        (∀ earlier ∈ front, earlier.IsPlain) ∧ token.Bars error ∧ edited = .failed chain error) ∧
    walked.chain = chain ∧
    ((∃ error, walked.outcome = .error error) ↔ ∃ token ∈ chain.tokens, token.isSystem = true) := by
  intro edited walked
  have hedited : edited = .ofOutcome chain (chain.append added) := chain.linkAtEnd_eq added
  have hwalked : walked = .ofOutcome chain (chain.append empty) := chain.linkAtEnd_eq empty
  rw [hedited, hwalked]
  refine ⟨fun hplain => ?_, fun hplain => ?_, ?_⟩
  · obtain ⟨longer, hlonger, htokens⟩ := append_of_isPlain added hplain
    rw [hlonger]
    exact ⟨rfl, htokens⟩
  · obtain ⟨front, token, back, error, htokens, hfront, hbars, herror⟩ :=
      append_of_not_isPlain hadded hplain
    rw [herror]
    exact ⟨front, token, back, error, htokens, hfront, hbars, rfl⟩
  · rw [← isSome_firstSystem?_iff]
    cases hsystem : chain.firstSystem? with
    | some identifier =>
        rw [append_of_system hsystem]
        exact ⟨rfl, iff_of_true ⟨_, rfl⟩ rfl⟩
    | none =>
        rw [append_empty hsystem]
        exact ⟨rfl, iff_of_false (fun ⟨error, h⟩ => nomatch h) Bool.false_ne_true⟩

/-- The count of the lines of an order is linked as a whole; behind it there is no room for a second
one. -/
theorem linkAtEnd_concatenates_count :
    let order : Chain := .plain "Orders" [⟨none, "1"⟩] .empty
    let count : Chain := .plain "Lines" [] (.system "$count" .empty)
    let counted := (order.linkAtEnd count).chain
    count ≠ empty ∧ order.IsPlain ∧ ¬ counted.IsPlain ∧
      counted.tokens = [.plain "Orders" [⟨none, "1"⟩], .plain "Lines" [], .system "$count"] ∧
      (counted.linkAtEnd count).chain = counted := by
  intro order count counted
  have hcount : count ≠ empty := by decide
  have horder : order.IsPlain := List.forall_mem_singleton.2 ⟨"Orders", [⟨none, "1"⟩], rfl⟩
  have htokens : counted.tokens = order.tokens ++ count.tokens :=
    ((linkAtEnd_concatenates order count hcount).1 horder).2
  have hcounted : ¬ counted.IsPlain := by
    intro hplain
    obtain ⟨_, _, heq⟩ := hplain (.system "$count") (by rw [htokens]; decide)
    contradiction
  refine ⟨hcount, horder, hcounted, htokens, ?_⟩
  obtain ⟨_, _, _, _, _, _, _, hfailed⟩ :=
    (linkAtEnd_concatenates counted count hcount).2.1 hcounted
  rw [hfailed]
  rfl

/-! ### Severing at the wildcard -/

/-- The tokens of a list in front of its first wildcard. -/
def untilWildcard (tokens : List Token) : List Token :=
  tokens.takeWhile fun token => !token.isWildcard

theorem untilWildcard_cons_of_isWildcard {star : Token} (h : star.isWildcard = true)
    (back : List Token) : untilWildcard (star :: back) = [] :=
  List.takeWhile_cons_of_neg (by rw [h]; decide)

theorem untilWildcard_cons {token : Token} (h : token.isWildcard = false) (back : List Token) :
    untilWildcard (token :: back) = token :: untilWildcard back :=
  List.takeWhile_cons_of_pos (by rw [h]; rfl)

theorem untilWildcard_of_startsWithWildcard (h : chain.startsWithWildcard = true) :
    untilWildcard chain.tokens = [] := by
  cases chain with
  | empty | system => contradiction
  | plain identifier values next =>
      have hstar : (Token.plain identifier values).isWildcard = true := h
      exact untilWildcard_cons_of_isWildcard hstar next.tokens
  | ending identifier context =>
      have hstar : (Token.ending identifier context).isWildcard = true := h
      exact untilWildcard_cons_of_isWildcard hstar []

/-- What stands behind a wildcard does not matter. -/
theorem untilWildcard_append {star : Token} (h : star.isWildcard = true)
    (front back : List Token) : untilWildcard (front ++ star :: back) = untilWildcard front := by
  induction front with
  | nil => exact untilWildcard_cons_of_isWildcard h back
  | cons token front ih =>
      cases htoken : token.isWildcard with
      | true =>
          rw [List.cons_append, untilWildcard_cons_of_isWildcard htoken,
            untilWildcard_cons_of_isWildcard htoken]
      | false => rw [List.cons_append, untilWildcard_cons htoken, untilWildcard_cons htoken, ih]

theorem tokens_cutAtWildcard (hsystem : chain.firstSystem? = none)
    (hstart : chain.startsWithWildcard = false) :
    chain.cutAtWildcard.tokens = untilWildcard chain.tokens := by
  induction chain with
  | empty => rfl
  | system => contradiction
  | plain identifier values next ih =>
      have hfirst : (Token.plain identifier values).isWildcard = false := hstart
      rw [tokens, untilWildcard_cons hfirst, cutAtWildcard]
      cases hnext : next.startsWithWildcard with
      | true =>
          rw [untilWildcard_of_startsWithWildcard hnext]
          rfl
      | false =>
          rw [← ih hsystem hnext]
          rfl
  | ending identifier context =>
      have hfirst : (Token.ending identifier context).isWildcard = false := hstart
      exact (untilWildcard_cons hfirst []).symm

theorem stripWildcard_of_system {identifier : String} (h : chain.firstSystem? = some identifier) :
    chain.stripWildcard = .error (.illegalSystemToken identifier) := by
  rw [stripWildcard, h]

theorem stripWildcard_of_wildcard (hsystem : chain.firstSystem? = none)
    (hstart : chain.startsWithWildcard = true) : chain.stripWildcard = .error .wildcardAtHead := by
  rw [stripWildcard, hsystem]
  exact if_pos hstart

theorem stripWildcard_of_no_system (hsystem : chain.firstSystem? = none)
    (hstart : chain.startsWithWildcard = false) :
    chain.stripWildcard = .ok chain.cutAtWildcard := by
  rw [stripWildcard, hsystem]
  exact if_neg (Bool.eq_false_iff.1 hstart)

theorem stripWildcard_eq_ok_iff {shorter : Chain} :
    chain.stripWildcard = .ok shorter ↔
      chain.firstSystem? = none ∧ chain.startsWithWildcard = false ∧
        chain.cutAtWildcard = shorter := by
  constructor
  · intro h
    cases hsystem : chain.firstSystem? with
    | some identifier =>
        rw [stripWildcard_of_system hsystem] at h
        contradiction
    | none =>
        cases hstart : chain.startsWithWildcard with
        | true =>
            rw [stripWildcard_of_wildcard hsystem hstart] at h
            contradiction
        | false =>
            rw [stripWildcard_of_no_system hsystem hstart] at h
            exact ⟨rfl, rfl, Except.ok.inj h⟩
  · rintro ⟨hsystem, hstart, rfl⟩
    exact stripWildcard_of_no_system hsystem hstart

/-- What is left has nothing to be cut off. -/
theorem stripWildcard_cutAtWildcard (hsystem : chain.firstSystem? = none)
    (hstart : chain.startsWithWildcard = false) :
    chain.cutAtWildcard.stripWildcard = .ok chain.cutAtWildcard := by
  have htokens := tokens_cutAtWildcard hsystem hstart
  have hsystem' : chain.cutAtWildcard.firstSystem? = none := by
    refine firstSystem?_eq_none_iff.2 fun token hmem => ?_
    rw [htokens] at hmem
    exact firstSystem?_eq_none_iff.1 hsystem token ((List.takeWhile_sublist _).subset hmem)
  have hstart' : chain.cutAtWildcard.startsWithWildcard = false := by
    rw [startsWithWildcard_eq, htokens, Option.any_eq_false]
    intro token hhead
    have hkept := List.mem_takeWhile_imp (List.mem_of_head? hhead)
    rwa [Bool.not_eq_true'] at hkept
  have hagain : chain.cutAtWildcard.cutAtWildcard = chain.cutAtWildcard := by
    refine tokens_injective ?_
    rw [tokens_cutAtWildcard hsystem' hstart', htokens]
    exact List.takeWhile_idem
  exact stripWildcard_eq_ok_iff.2 ⟨hsystem', hstart', hagain⟩

/-- A system token that is not behind the wildcard is in front of it. -/
theorem find?_isSystem_append {front rest : List Token} {star : Token}
    (hstar : star.isWildcard = true) (hrest : ∀ token ∈ rest, token.isSystem = false) :
    (front ++ star :: rest).find? Token.isSystem = front.find? Token.isSystem := by
  have hnone : (star :: rest).find? Token.isSystem = none := by
    refine List.find?_eq_none.2 (List.forall_mem_cons.2 ⟨?_, fun token hmem => ?_⟩)
    · rw [Token.isSystem_of_isWildcard hstar]
      decide
    · rw [hrest token hmem]
      decide
  rw [List.find?_append, hnone, Option.or_none]

/-- The tokens in front of a wildcard decide what is left, as long as no system token stands behind
it. -/
theorem stripWildcard_congr {front back others : List Token} {star : Token}
    (hstar : star.isWildcard = true) (hchain : chain.tokens = front ++ star :: back)
    (hother : other.tokens = front ++ star :: others)
    (hback : ∀ token ∈ back, token.isSystem = false)
    (hothers : ∀ token ∈ others, token.isSystem = false) :
    other.stripWildcard = chain.stripWildcard := by
  have hsystem : other.firstSystem? = chain.firstSystem? := by
    rw [firstSystem?_eq, firstSystem?_eq, hchain, hother, find?_isSystem_append hstar hback,
      find?_isSystem_append hstar hothers]
  have hstart : other.startsWithWildcard = chain.startsWithWildcard := by
    rw [startsWithWildcard_eq, startsWithWildcard_eq, hchain, hother, List.head?_append,
      List.head?_append]
    rfl
  cases hfound : chain.firstSystem? with
  | some identifier =>
      rw [hfound] at hsystem
      rw [stripWildcard_of_system hsystem, stripWildcard_of_system hfound]
  | none =>
      rw [hfound] at hsystem
      cases hwild : chain.startsWithWildcard with
      | true =>
          rw [hwild] at hstart
          rw [stripWildcard_of_wildcard hsystem hstart, stripWildcard_of_wildcard hfound hwild]
      | false =>
          rw [hwild] at hstart
          rw [stripWildcard_of_no_system hsystem hstart, stripWildcard_of_no_system hfound hwild]
          refine congrArg Except.ok (tokens_injective ?_)
          rw [tokens_cutAtWildcard hsystem hstart, tokens_cutAtWildcard hfound hwild, hchain,
            hother, untilWildcard_append hstar, untilWildcard_append hstar]

/-- Severing a second time changes nothing, and fails where it has failed. -/
theorem sever_sever (chain : Chain) : chain.sever.chain.sever = chain.sever := by
  have hsever := chain.sever_eq
  cases hmade : chain.stripWildcard with
  | error fault =>
      rw [hmade] at hsever
      have hchain : chain.sever.chain = chain := by rw [hsever]; rfl
      rw [hchain]
  | ok shorter =>
      rw [hmade] at hsever
      obtain ⟨hsystem, hstart, rfl⟩ := stripWildcard_eq_ok_iff.1 hmade
      have hchain : chain.sever.chain = chain.cutAtWildcard := by rw [hsever]; rfl
      rw [hchain, sever_eq chain.cutAtWildcard, stripWildcard_cutAtWildcard hsystem hstart, hsever]
      rfl

/-- The walk comes to a wildcard at its start only, so that its assertion holds. -/
theorem severChecked_eq {passed : Bool} (h : passed = true → chain.startsWithWildcard = false) :
    chain.severChecked passed = some (chain.severFrom passed) := by
  induction chain generalizing passed with
  | empty | system => rfl
  | plain identifier values next ih =>
      rw [severChecked, severFrom]
      by_cases hidentifier : identifier = Token.wildcard
      · cases passed with
        | true => exact absurd hidentifier (of_decide_eq_false (h rfl))
        | false =>
            rw [if_pos hidentifier, if_pos hidentifier]
            rfl
      · rw [if_neg hidentifier, if_neg hidentifier]
        cases hnext : next.startsWithWildcard with
        | true => rfl
        | false =>
            simp only [Bool.false_eq_true, if_false]
            rw [ih fun _ => hnext]
            rfl
  | ending identifier context =>
      rw [severChecked, severFrom]
      split <;> rfl

-- A walk that came to a wildcard further on would break the assertion.
example : (plain "*" [] .empty).severChecked true = none := rfl

/-- Severing fails, and leaves the chain as it was, where there is a system token anywhere or the
first token is a wildcard; otherwise it keeps the tokens in front of the first wildcard as they are.
So nothing is left to be severed by a second time, and it does not matter which tokens stand behind
a wildcard, unless one of them is a system token.  The assertion of the walk holds. -/
theorem sever_keeps_front (chain : Chain) :
    let edited := chain.sever
    (∀ front identifier back, chain.tokens = front ++ .system identifier :: back →
      (∀ token ∈ front, token.isSystem = false) →
      edited = .failed chain (.illegalSystemToken identifier)) ∧
    ((∀ token ∈ chain.tokens, token.isSystem = false) →
      ((∃ first ∈ chain.tokens.head?, first.isWildcard = true) →
        edited = .failed chain .wildcardAtHead) ∧
      ((∀ first ∈ chain.tokens.head?, first.isWildcard = false) →
        edited.outcome = .ok () ∧
          edited.chain.tokens = chain.tokens.takeWhile fun token => !token.isWildcard)) ∧
    edited.chain.sever = edited ∧
    (∀ front star back others, ∀ other : Chain, star.isWildcard = true →
      chain.tokens = front ++ star :: back → other.tokens = front ++ star :: others →
      (∀ token ∈ back ++ others, token.isSystem = false) →
      other.sever.outcome = edited.outcome ∧
        (edited.outcome = .ok () → other.sever.chain = edited.chain)) ∧
    chain.severChecked false = some (chain.severFrom false) := by
  intro edited
  have hedited : edited = .ofOutcome chain chain.stripWildcard := chain.sever_eq
  refine ⟨fun front identifier back htokens hfront => ?_, fun hfree => ⟨?_, fun hfirst => ?_⟩,
    chain.sever_sever, fun front star back others other hstar hchain hother hfree => ?_, ?_⟩
  · rw [hedited, stripWildcard_of_system (firstSystem?_of_tokens htokens hfront)]
    rfl
  · rintro ⟨first, hfirst, hstar⟩
    have hstart : chain.startsWithWildcard = true := by
      rw [startsWithWildcard_eq, Option.any_eq_true]
      exact ⟨first, hfirst, hstar⟩
    rw [hedited, stripWildcard_of_wildcard (firstSystem?_eq_none_iff.2 hfree) hstart]
    rfl
  · have hstart : chain.startsWithWildcard = false := by
      rw [startsWithWildcard_eq, Option.any_eq_false]
      exact hfirst
    have hsystem := firstSystem?_eq_none_iff.2 hfree
    rw [hedited, stripWildcard_of_no_system hsystem hstart]
    exact ⟨rfl, tokens_cutAtWildcard hsystem hstart⟩
  · rw [hedited, other.sever_eq]
    obtain ⟨hback, hothers⟩ := List.forall_mem_append.1 hfree
    rw [stripWildcard_congr hstar hchain hother hback hothers]
    exact Edited.outcome_ofOutcome chain other _
  · exact severChecked_eq fun h => nomatch h

end Chain
end ResourcePaths
