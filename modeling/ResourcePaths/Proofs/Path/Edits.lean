import ResourcePaths.Path.InPlace
import ResourcePaths.Proofs.Outcome

/-!
# Edits of chains

An edit in place goes through exactly when the chain that it amounts to can be made, and then leaves
that chain; otherwise it leaves the chain that it was made on.  From here a run of edits is a run of
`Edit.result`, and the shape of the chains is kept step by step: only a last token is ever anything
but plain.
-/

namespace ResourcePaths

/-- The chain that could be made or, after a fault, the chain as it was. -/
def Edited.ofOutcome (chain : Chain) : Except SyntaxError Chain → Edited
  | .ok edited => .done edited
  | .error error => .failed chain error

theorem Edited.chain_eq_of_failed {chain : Chain} {made : Except SyntaxError Chain}
    {error : SyntaxError} (h : (ofOutcome chain made).outcome = .error error) :
    (ofOutcome chain made).chain = chain := by
  cases made with
  | ok edited => contradiction
  | error _ => rfl

/-- What holds of a chain and of all that can be made of it holds of what an edit leaves. -/
theorem Edited.chain_ofOutcome {motive : Chain → Prop} {chain : Chain}
    {made : Except SyntaxError Chain} (h : motive chain)
    (hmade : ∀ edited, made = .ok edited → motive edited) : motive (ofOutcome chain made).chain := by
  cases made with
  | ok edited => exact hmade edited rfl
  | error _ => exact h

namespace Chain

/-! ### What edits amount to -/

/-- The walk meets its faults before it has changed anything. -/
theorem linkAtEnd_eq (chain added : Chain) :
    chain.linkAtEnd added = .ofOutcome chain (chain.append added) := by
  induction chain with
  | empty | system => rfl
  | plain identifier values next ih =>
      rw [linkAtEnd, ih, append]
      cases next.append added with
      | ok longer | error error => rfl
  | ending identifier context =>
      rw [linkAtEnd, append]
      split <;> rfl

theorem linkAtEnd_eq_extend {chain : Chain} (added : Chain) (h : chain.isEmpty = false) :
    chain.linkAtEnd added = .ofOutcome chain (chain.extend added) := by
  rw [linkAtEnd_eq, extend, h]
  rfl

/-- Where no token is a system token and the first one is no wildcard, the walk that cuts meets no
fault. -/
theorem severFrom_eq {chain : Chain} (passed : Bool) (hsystem : chain.firstSystem? = none)
    (hstart : chain.startsWithWildcard = false) :
    chain.severFrom passed = .done chain.cutAtWildcard := by
  induction chain generalizing passed with
  | empty => rfl
  | system => contradiction
  | plain identifier values next ih =>
      have hidentifier : identifier ≠ Token.wildcard := of_decide_eq_false hstart
      rw [severFrom, cutAtWildcard, if_neg hidentifier]
      cases hnext : next.startsWithWildcard with
      | true => rfl
      | false =>
          simp only [Bool.false_eq_true, if_false]
          rw [ih true hsystem hnext]
          rfl
  | ending identifier context =>
      have hidentifier : identifier ≠ Token.wildcard := of_decide_eq_false hstart
      rw [severFrom, decide_eq_false hidentifier]
      rfl

theorem severFrom_of_wildcard {chain : Chain} (hstart : chain.startsWithWildcard = true) :
    chain.severFrom false = .failed chain .wildcardAtHead := by
  cases chain with
  | empty | system => contradiction
  | plain identifier values next =>
      rw [severFrom, if_pos (of_decide_eq_true hstart)]
  | ending identifier context =>
      have hidentifier : identifier = Token.wildcard := of_decide_eq_true hstart
      rw [severFrom, decide_eq_true hidentifier]
      rfl

theorem sever_eq (chain : Chain) : chain.sever = .ofOutcome chain chain.stripWildcard := by
  rw [sever, stripWildcard]
  cases hsystem : chain.firstSystem? with
  | some identifier => rfl
  | none =>
      cases hstart : chain.startsWithWildcard with
      | true => exact severFrom_of_wildcard hstart
      | false => exact severFrom_eq false hsystem hstart

/-- The segments that are linked one by one make up a chain exactly when no fault is met. -/
theorem linkSegments_eq (chain : Chain) (segments : List String) :
    match chain.appendSegments segments with
    | .ok longer => chain.linkSegments segments = .done longer
    | .error error => (chain.linkSegments segments).outcome = .error error := by
  induction segments generalizing chain with
  | nil => rfl
  | cons text rest ih =>
      rw [appendSegments, linkSegments]
      cases RawSegment.ofText text with
      | error error => rfl
      | ok segment =>
          simp only [linkAtEnd_eq]
          show match chain.append segment.toToken.toChain >>= fun longer =>
              longer.appendSegments rest with | .ok _ => _ | .error _ => _
          cases chain.append segment.toToken.toChain with
          | error error => rfl
          | ok longer => exact ih longer

/-- The chain that an edit amounts to. -/
def Edit.result (chain : Chain) : Edit → Except SyntaxError Chain
  | append token => chain.append token.toChain
  | extend token => chain.extend (token.elim .empty Token.toChain)
  | stripWildcard => chain.stripWildcard
  | replace segments => Chain.ofSegments segments
  | dropHead => .ok chain.tail

/-- An edit leaves what it amounts to, or the chain as it was. -/
theorem Edit.apply_eq (chain : Chain) (edit : Edit) :
    edit.apply chain = .ofOutcome chain (edit.result chain) := by
  cases edit with
  | append token => exact chain.linkAtEnd_eq token.toChain
  | extend token =>
      cases hempty : chain.isEmpty with
      | true => simp only [apply, result, Chain.extend, hempty, if_true]; rfl
      | false =>
          simp only [apply, hempty, Bool.false_eq_true, if_false]
          exact linkAtEnd_eq_extend _ hempty
  | stripWildcard => exact chain.sever_eq
  | replace segments =>
      have hlinked := Chain.empty.linkSegments_eq segments
      simp only [apply, result, ofSegments]
      cases hmade : Chain.empty.appendSegments segments with
      | ok longer =>
          rw [hmade] at hlinked
          simp only [hlinked]
          rfl
      | error error =>
          rw [hmade] at hlinked
          simp only [hlinked]
          rfl
  | dropHead => rfl

/-! ### The shape of chains -/

/-- A chain in which nothing follows a token that is not plain. -/
def PlainUntilLast : Chain → Prop
  | empty => True
  | system _ next => next = empty
  | plain _ _ next => next.PlainUntilLast
  | ending _ _ => True

theorem plainUntilLast_empty : empty.PlainUntilLast :=
  trivial

theorem plainUntilLast_toChain (token : Token) : token.toChain.PlainUntilLast := by
  cases token with
  | system | plain | ending => trivial

theorem PlainUntilLast.tail {chain : Chain} (h : chain.PlainUntilLast) :
    chain.tail.PlainUntilLast := by
  cases chain with
  | empty | ending => trivial
  | system identifier next =>
      obtain rfl : next = empty := h
      trivial
  | plain identifier values next => exact h

theorem PlainUntilLast.append {chain added longer : Chain} (h : chain.PlainUntilLast)
    (hadded : added.PlainUntilLast) (hlonger : chain.append added = .ok longer) :
    longer.PlainUntilLast := by
  induction chain generalizing longer with
  | empty =>
      obtain rfl := Except.ok.inj hlonger
      exact hadded
  | system => contradiction
  | plain identifier values next ih =>
      obtain ⟨rest, hrest, heq⟩ := Outcome.bind_eq_ok_iff.1 hlonger
      obtain rfl := Except.ok.inj heq
      have hlinked : rest.PlainUntilLast := ih h hrest
      exact hlinked
  | ending identifier context =>
      rw [Chain.append] at hlonger
      split at hlonger
      · obtain rfl := Except.ok.inj hlonger
        trivial
      · contradiction

theorem PlainUntilLast.extend {chain added longer : Chain} (h : chain.PlainUntilLast)
    (hadded : added.PlainUntilLast) (hlonger : chain.extend added = .ok longer) :
    longer.PlainUntilLast := by
  rw [Chain.extend] at hlonger
  split at hlonger
  · obtain rfl := Except.ok.inj hlonger
    exact h
  · exact h.append hadded hlonger

theorem PlainUntilLast.cutAtWildcard {chain : Chain} (h : chain.PlainUntilLast) :
    chain.cutAtWildcard.PlainUntilLast := by
  induction chain with
  | empty | system | ending => exact h
  | plain identifier values next ih =>
      rw [Chain.cutAtWildcard]
      split
      · trivial
      · exact ih h

theorem PlainUntilLast.stripWildcard {chain shorter : Chain} (h : chain.PlainUntilLast)
    (hshorter : chain.stripWildcard = .ok shorter) : shorter.PlainUntilLast := by
  rw [Chain.stripWildcard] at hshorter
  split at hshorter
  · contradiction
  · split at hshorter
    · contradiction
    · obtain rfl := Except.ok.inj hshorter
      exact h.cutAtWildcard

theorem PlainUntilLast.appendSegments {chain longer : Chain} {segments : List String}
    (h : chain.PlainUntilLast) (hlonger : chain.appendSegments segments = .ok longer) :
    longer.PlainUntilLast := by
  induction segments generalizing chain with
  | nil =>
      obtain rfl := Except.ok.inj hlonger
      exact h
  | cons text rest ih =>
      rw [Chain.appendSegments, Outcome.bind_eq_ok_iff] at hlonger
      obtain ⟨segment, -, hlonger⟩ := hlonger
      obtain ⟨next, hnext, hlonger⟩ := Outcome.bind_eq_ok_iff.1 hlonger
      exact ih (h.append (plainUntilLast_toChain _) hnext) hlonger

/-- Each edit keeps the shape. -/
theorem PlainUntilLast.apply {chain : Chain} (h : chain.PlainUntilLast) (edit : Edit) :
    (edit.apply chain).chain.PlainUntilLast := by
  rw [edit.apply_eq]
  refine Edited.chain_ofOutcome h fun edited hedited => ?_
  cases edit with
  | append token => exact h.append (plainUntilLast_toChain token) hedited
  | extend token =>
      have htoken : (token.elim .empty Token.toChain).PlainUntilLast := by
        cases token with
        | none => trivial
        | some token => exact plainUntilLast_toChain token
      exact h.extend htoken hedited
  | stripWildcard => exact h.stripWildcard hedited
  | replace segments => exact plainUntilLast_empty.appendSegments hedited
  | dropHead =>
      obtain rfl := Except.ok.inj hedited
      exact h.tail

/-- A run of edits keeps the shape. -/
theorem PlainUntilLast.editedBy {chain : Chain} (h : chain.PlainUntilLast) (edits : List Edit) :
    (chain.editedBy edits).PlainUntilLast := by
  induction edits generalizing chain with
  | nil => exact h
  | cons edit rest ih => exact ih (h.apply edit)

/-! ### What chains show -/

theorem plain_of_mem_dropLast {chain : Chain} (h : chain.PlainUntilLast) {token : Token}
    (hmem : token ∈ chain.tokens.dropLast) :
    ∃ identifier values, token = .plain identifier values := by
  induction chain with
  | empty | ending => contradiction
  | system identifier next ih =>
      obtain rfl : next = empty := h
      contradiction
  | plain identifier values next ih =>
      rw [tokens] at hmem
      cases htokens : next.tokens with
      | nil =>
          rw [htokens] at hmem
          contradiction
      | cons first others =>
          rw [htokens, List.dropLast_cons_cons, ← htokens, List.mem_cons] at hmem
          rcases hmem with rfl | hmem
          · exact ⟨identifier, values, rfl⟩
          · exact ih h hmem

/-- The last token of a chain links to nothing. -/
theorem tail_of_getLast?_suffixes {chain last : Chain} (h : chain.suffixes.getLast? = some last) :
    last.tail = .empty := by
  induction chain with
  | empty => contradiction
  | system identifier next ih | plain identifier values next ih =>
      rw [suffixes, List.getLast?_cons] at h
      obtain rfl := Option.some.inj h
      cases hnext : next.suffixes.getLast? with
      | some last =>
          rw [hnext] at ih
          exact ih rfl
      | none =>
          cases next with
          | empty => rfl
          | system | plain | ending => simp [suffixes] at hnext
  | ending identifier context =>
      obtain rfl := Option.some.inj h
      rfl

theorem map_head?_suffixes (chain : Chain) :
    chain.suffixes.map head? = chain.tokens.map some := by
  induction chain with
  | empty | ending => rfl
  | system identifier next ih | plain identifier values next ih =>
      rw [suffixes, List.map_cons, ih]
      rfl

/-- The tokens of a chain, linked from the last one to the first, are the chain. -/
theorem ofTokens_tokens (chain : Chain) : ofTokens chain.tokens = .ok chain := by
  induction chain with
  | empty => rfl
  | system identifier next ih | plain identifier values next ih =>
      rw [tokens, ofTokens, ih]
      rfl
  | ending identifier context =>
      rw [tokens, ofTokens]
      rfl

theorem isEmpty_tokens (chain : Chain) : chain.tokens.isEmpty = chain.isEmpty := by
  cases chain with
  | empty | system | plain | ending => rfl

/-- A chain as it can be reached by edits. -/
structure WellFormed (chain : Chain) : Prop where
  /-- All tokens but the last are plain. -/
  plain : ∀ token ∈ chain.tokens.dropLast, ∃ identifier values, token = .plain identifier values
  /-- The last token links to nothing. -/
  unlinked : ∀ last ∈ chain.suffixes.getLast?, last.tail = .empty
  /-- All that a chain shows is that of one list of tokens, from which it can be linked again. -/
  shown : ∃ tokens, ofTokens tokens = .ok chain ∧ chain.suffixes.map head? = tokens.map some ∧
    chain.length = tokens.length ∧ chain.isEmpty = tokens.isEmpty ∧
    chain.identifiers = tokens.map Token.identifier ∧
    chain.render = Text.joined "/" (tokens.map Token.render)

theorem PlainUntilLast.wellFormed {chain : Chain} (h : chain.PlainUntilLast) :
    chain.WellFormed where
  plain _ hmem := plain_of_mem_dropLast h hmem
  unlinked _ hlast := tail_of_getLast?_suffixes hlast
  shown := ⟨chain.tokens, chain.ofTokens_tokens, chain.map_head?_suffixes, rfl,
    chain.isEmpty_tokens.symm, rfl, rfl⟩

/-- Every chain that edits reach from the empty one is well formed, and an edit of it that fails
leaves it as it is. -/
theorem wellFormed_editedBy (edits : List Edit) :
    let chain := Chain.empty.editedBy edits
    chain.WellFormed ∧ ∀ (edit : Edit) (error : SyntaxError),
      (edit.apply chain).outcome = .error error → (edit.apply chain).chain = chain := by
  intro chain
  have hshape : chain.PlainUntilLast := plainUntilLast_empty.editedBy edits
  refine ⟨hshape.wellFormed, fun edit error hfailed => ?_⟩
  rw [edit.apply_eq] at hfailed ⊢
  exact Edited.chain_eq_of_failed hfailed

/-- The number of orders: the walk to the wildcard must not cut the chain, as it ends in a system
token. -/
theorem wellFormed_editedBy_count :
    let edits : List Edit := [.replace ["Orders(1)", "*"], .append (.system "$count"), .dropHead,
      .replace ["Orders(1)", "*", "$count"]]
    let chain := Chain.empty.editedBy edits
    chain.identifiers = ["Orders", "*", "$count"] ∧
      (Edit.stripWildcard.apply chain).outcome = .error (.illegalSystemToken "$count") ∧
      (Edit.stripWildcard.apply chain).chain = chain := by
  intro edits chain
  have hsystem : chain.firstSystem? = some "$count" := by decide +kernel
  have hfailed : (Edit.stripWildcard.apply chain).outcome =
      .error (.illegalSystemToken "$count") := by
    show chain.sever.outcome = _
    rw [sever, hsystem]
    rfl
  exact ⟨by decide +kernel, hfailed, (wellFormed_editedBy edits).2 _ _ hfailed⟩

end Chain
end ResourcePaths
