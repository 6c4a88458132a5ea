import ResourcePaths.Proofs.Binding.FirstFault

/-!
# Two ways into a path

A path starts at the container, where its first token names a source, or at the source itself.  The
first token leads to the very place that a path from the source starts at, so that the tokens behind
it bind alike on both ways.  Only the positions differ, which nothing but faults tell.
-/

namespace ResourcePaths

/-- The same fault, at a token that stands one position further on. -/
def BindingError.later : BindingError → BindingError
  | .token index identifier fault => .token (index + 1) identifier fault
  | other => other

namespace Binder

variable {binder : Binder}

/-- Tokens that stand one position further on give the same steps, or the same fault there. -/
theorem bindRest_succ (place : Place) (index : Nat) (tokens : List Token) :
    binder.bindRest place (index + 1) tokens =
      (binder.bindRest place index tokens).mapError BindingError.later := by
  induction tokens generalizing place index with
  | nil => rfl
  | cons token rest ih =>
      rw [bindRest, bindRest]
      cases hfirst : binder.bindNext place token >>= binder.finishStep token with
      | error fault => rfl
      | ok step =>
          show (do
              let others ← binder.bindRest step.place (index + 1 + 1) rest
              return step :: others) =
            Except.mapError BindingError.later (do
              let others ← binder.bindRest step.place (index + 1) rest
              return step :: others)
          rw [ih]
          cases hrest : binder.bindRest step.place (index + 1) rest with
          | error error => rfl
          | ok others => rfl

/-- A token without values that names a source leads to the place where paths from the source
start. -/
theorem bindTokens_source {container : Container} {name : String} {source : DeclaredSource}
    (hcontainer : binder.container = some container)
    (hsource : container.findSource? name binder.settings.ignoreCase = some source)
    (tokens : List Token) :
    binder.bindTokens none (.plain name [] :: tokens) = do
      let others ← binder.bindRest (binder.placeOf (.declared source)) 1 tokens
      return ⟨binder.sourceSegment name source, none⟩ :: others := by
  have hsegment : binder.bindRoot container (.plain name []) =
      .ok (binder.sourceSegment name source) :=
    bindRoot_eq_ok_iff.2 (.source source hsource)
  have hstep : binder.bindRoot container (.plain name []) >>= binder.finishStep (.plain name []) =
      .ok ⟨binder.sourceSegment name source, none⟩ := by
    rw [hsegment]
    rfl
  simp only [bindTokens, hcontainer]
  rw [hstep]
  rfl

/-- A path from a source is the path from the container behind the name of the source, and what is
wrong with the one is wrong with the other, one position further on. -/
theorem bind_agrees_with_bindFrom (binder : Binder) (container : Container) (name : String)
    (source : DeclaredSource) (chain : Chain) (hcontainer : binder.container = some container)
    (hsource : container.findSource? name binder.settings.ignoreCase = some source)
    (hne : chain ≠ .empty) (hplain : ∀ token ∈ chain.tokens, token.isSystem = false)
    (hlength : chain.length + 1 ≤ binder.settings.maxSegments) :
    ∃ segment : Segment,
      (segment.identifier = name ∧ segment.kind = .source source ∧
        segment.place = binder.placeOf (.declared source)) ∧
      (∀ path, binder.bindFrom (.declared source) chain = .ok path →
        ∃ whole, binder.bind (.plain name [] chain) = .ok whole ∧
          whole.steps = ⟨segment, none⟩ :: path.steps ∧
          whole.segments = segment :: path.segments) ∧
      (∀ whole, binder.bind (.plain name [] chain) = .ok whole →
        ∃ path, binder.bindFrom (.declared source) chain = .ok path) ∧
      ∀ error, binder.bindFrom (.declared source) chain = .error error →
        ∃ index identifier fault, error = .token index identifier fault ∧
          binder.bind (.plain name [] chain) = .error (.token (index + 1) identifier fault) := by
  have htokens : chain.tokens ≠ [] := by
    intro hnil
    cases chain with
    | empty => exact hne rfl
    | system | plain | ending => simp [Chain.tokens] at hnil
  -- Neither way in fails before its tokens are gone through.
  have hfrom : binder.bindFrom (.declared source) chain =
      (binder.bindRest (binder.placeOf (.declared source)) 0 chain.tokens).map ResourcePath.mk :=
    bindChain_of_plain htokens (Nat.le_of_succ_le hlength) hplain
  have hwhole : binder.bind (.plain name [] chain) =
      (binder.bindTokens none (.plain name [] :: chain.tokens)).map ResourcePath.mk := by
    apply bindChain_of_plain
    · simp [Chain.tokens]
    · show chain.tokens.length + 1 ≤ binder.settings.maxSegments
      exact hlength
    · intro token hmem
      rcases List.mem_cons.1 hmem with rfl | hmem
      · rfl
      · exact hplain token hmem
  rw [bindTokens_source hcontainer hsource, bindRest_succ] at hwhole
  rw [hfrom, hwhole]
  refine ⟨binder.sourceSegment name source, ⟨rfl, rfl, rfl⟩, ?_⟩
  cases hrest : binder.bindRest (binder.placeOf (.declared source)) 0 chain.tokens with
  | ok steps =>
      refine ⟨fun path hpath => ?_, fun whole _ => ⟨⟨steps⟩, rfl⟩, fun error herror => ?_⟩
      · obtain rfl : ResourcePath.mk steps = path := Except.ok.inj hpath
        exact ⟨_, rfl, rfl, rfl⟩
      · contradiction
  | error error =>
      refine ⟨fun path hpath => ?_, fun whole hbind => ?_, fun found hfound => ?_⟩
      · contradiction
      · contradiction
      · obtain rfl : error = found := Except.error.inj hfound
        obtain ⟨front, token, _, fault, _, rfl, _⟩ := stopsIn_bindRest hrest
        exact ⟨_, _, fault, rfl, rfl⟩

/-- One of the things, by its number, has no size; asked from the things or from the container, in
other letters, the answer differs in the position alone. -/
theorem bind_agrees_with_bindFrom_things :
    let binder : Binder := .ofModel (.ofDescription namedThings) { ignoreCase := true }
    let chain : Chain := .plain "N.Thing" [⟨none, "2"⟩] (.plain "Size" [] .empty)
    ∃ container source, binder.container = some container ∧
      container.findSource? "THINGS" true = some source ∧
      (∀ token ∈ chain.tokens, token.isSystem = false) ∧
      binder.bindFrom (.declared source) chain =
        .error (.token 1 "Size" (.notFound (.type "N.Thing"))) ∧
      binder.bind (.plain "THINGS" [] chain) =
        .error (.token 2 "Size" (.notFound (.type "N.Thing"))) := by
  intro binder chain
  have hplain : ∀ token ∈ chain.tokens, token.isSystem = false := by decide
  have herror : (binder.container.bind fun container =>
      (container.findSource? "THINGS" true).map fun source =>
        binder.bindFrom (.declared source) chain) =
      some (.error (.token 1 "Size" (.notFound (.type "N.Thing")))) := by decide +kernel
  obtain ⟨container, hcontainer, hfound⟩ := Option.bind_eq_some_iff.1 herror
  obtain ⟨source, hsource, herror⟩ := Option.map_eq_some_iff.1 hfound
  obtain ⟨segment, _, _, _, hlater⟩ := bind_agrees_with_bindFrom binder container "THINGS" source
    chain hcontainer hsource (by decide) hplain (by decide)
  obtain ⟨index, identifier, fault, heq, hbind⟩ := hlater _ herror
  obtain ⟨rfl, rfl, rfl⟩ := BindingError.token.inj heq
  exact ⟨container, source, hcontainer, hsource, hplain, herror, hbind⟩

end Binder
end ResourcePaths
