import ResourcePaths.Proofs.Binding.Typing

/-!
# The first fault

The binder takes the tokens of a chain one by one and never looks ahead.  A chain that binds does
so with each of its prefixes, and the path of a prefix is the prefix of the path.  A chain that does
not bind is at fault at one of its tokens: the tokens in front of it bind, and those behind it do
not matter.  Only system tokens are looked for beforehand, and no chain with one of them binds.
-/

namespace ResourcePaths

/-! ### Prefixes -/

namespace Chain

/-- The chain of the first tokens, so many of them. -/
def take : Nat → Chain → Chain
  | 0, _ => empty
  | _ + 1, empty => empty
  | count + 1, system identifier next => system identifier (next.take count)
  | count + 1, plain identifier values next => plain identifier values (next.take count)
  | _ + 1, ending identifier context => ending identifier context

@[simp] theorem tokens_take (count : Nat) (chain : Chain) :
    (chain.take count).tokens = chain.tokens.take count := by
  induction chain generalizing count with
  | empty => cases count <;> rfl
  | system identifier next ih =>
      cases count with
      | zero => rfl
      | succ count => rw [take, tokens, tokens, List.take_succ_cons, ih]
  | plain identifier values next ih =>
      cases count with
      | zero => rfl
      | succ count => rw [take, tokens, tokens, List.take_succ_cons, ih]
  | ending identifier context =>
      cases count with
      | zero => rfl
      | succ count => rw [take, tokens, List.take_succ_cons, List.take_nil]

end Chain

namespace ResourcePath

/-- The path of the first steps, so many of them. -/
def take (count : Nat) (path : ResourcePath) : ResourcePath :=
  ⟨path.steps.take count⟩

theorem segments_take_prefix (count : Nat) (path : ResourcePath) :
    (path.take count).segments <+: path.segments := by
  have hsplit : path.segments =
      (path.take count).segments ++ (path.steps.drop count).flatMap Step.segments := by
    rw [segments, segments, take, ← List.flatMap_append, List.take_append_drop]
  rw [hsplit]
  exact List.prefix_append _ _

end ResourcePath

namespace Binder

/-- The path of a chain from a source, or from the container. -/
def bindAt (binder : Binder) : Option NavigationSource → Chain →
    Except BindingError ResourcePath
  | none, chain => binder.bind chain
  | some source, chain => binder.bindFrom source chain

variable {binder : Binder}

theorem bindAt_eq (start : Option NavigationSource) (chain : Chain) :
    binder.bindAt start chain = binder.bindChain (start.map binder.placeOf) chain.tokens := by
  cases start <;> rfl

theorem Runs.take {start : Option Place} {tokens : List Token} {steps : List Step}
    (h : Runs binder start tokens steps) (count : Nat) :
    Runs binder start (tokens.take count) (steps.take count) := by
  induction h generalizing count with
  | nil start =>
      rw [List.take_nil, List.take_nil]
      exact .nil start
  | cons hsegment hkey _ ih =>
      cases count with
      | zero => exact .nil _
      | succ count => exact .cons hsegment hkey (ih count)

/-! ### Faults -/

/-- Going through tokens stops at one of them with an error: the tokens in front can be gone
through, and the error is the same whatever comes behind. -/
structure StopsAt (run : List Token → Except BindingError (List Step)) (error : BindingError)
    (front : List Token) (token : Token) : Prop where
  reached : ∃ steps, run front = .ok steps
  stopped : ∀ further, run (front ++ token :: further) = .error error

/-- Tokens hold one at which going through them stops, and the error names it by its position and
its identifier. -/
def StopsIn (run : List Token → Except BindingError (List Step)) (index : Nat)
    (error : BindingError) (tokens : List Token) : Prop :=
  ∃ front token back fault, tokens = front ++ token :: back ∧
    error = .token (index + front.length) token.identifier fault ∧ StopsAt run error front token

/-- Where a first token is bound and the others are gone through from there, the fault is that of
the first token or one of the others. -/
theorem stopsIn_cons {run : List Token → Except BindingError (List Step)} {index : Nat}
    {error : BindingError} {token : Token} {rest : List Token} {first : Except TokenFault Step}
    (hnil : run [] = .ok [])
    (hcons : ∀ rest, run (token :: rest) = do
      let step ← faultAt index token first
      let others ← binder.bindRest step.place (index + 1) rest
      return step :: others)
    (hrest : ∀ step, first = .ok step →
      binder.bindRest step.place (index + 1) rest = .error error →
        StopsIn (binder.bindRest step.place (index + 1)) (index + 1) error rest)
    (h : run (token :: rest) = .error error) : StopsIn run index error (token :: rest) := by
  cases hfirst : first with
  | error fault =>
      have hall : ∀ further, run (token :: further) =
          .error (.token index token.identifier fault) := by
        intro further
        rw [hcons, hfirst]
        rfl
      obtain rfl : BindingError.token index token.identifier fault = error :=
        Except.error.inj ((hall rest).symm.trans h)
      exact ⟨[], token, rest, fault, rfl, rfl, ⟨[], hnil⟩, hall⟩
  | ok step =>
      have hall : ∀ further, run (token :: further) =
          (binder.bindRest step.place (index + 1) further).map (step :: ·) := by
        intro further
        rw [hcons, hfirst]
        rfl
      have herror : binder.bindRest step.place (index + 1) rest = .error error := by
        rw [hall] at h
        cases hothers : binder.bindRest step.place (index + 1) rest with
        | ok others =>
            rw [hothers] at h
            contradiction
        | error found =>
            rw [hothers] at h
            exact h
      obtain ⟨front, stop, back, fault, rfl, herror, ⟨steps, hsteps⟩, hstopped⟩ :=
        hrest step hfirst herror
      refine ⟨token :: front, stop, back, fault, rfl, ?_, ⟨step :: steps, ?_⟩, fun further => ?_⟩
      · rw [herror, List.length_cons, Nat.add_assoc, Nat.add_comm 1]
      · rw [hall, hsteps]
        rfl
      · rw [List.cons_append, hall, hstopped]
        rfl

theorem stopsIn_bindRest {place : Place} {index : Nat} {tokens : List Token} {error : BindingError}
    (h : binder.bindRest place index tokens = .error error) :
    StopsIn (binder.bindRest place index) index error tokens := by
  induction tokens generalizing place index with
  | nil => contradiction
  | cons token rest ih =>
      have hcons : ∀ rest, binder.bindRest place index (token :: rest) = do
          let step ← faultAt index token
            (binder.bindNext place token >>= binder.finishStep token)
          let others ← binder.bindRest step.place (index + 1) rest
          return step :: others := fun _ => rfl
      exact stopsIn_cons rfl hcons (fun step _ herror => ih herror) h

/-- Where going through tokens fails there is no container, or it stops at one of them. -/
theorem stopsIn_bindTokens {start : Option Place} {tokens : List Token} {error : BindingError}
    (h : binder.bindTokens start tokens = .error error) :
    error = .noContainer ∨ StopsIn (binder.bindTokens start) 0 error tokens := by
  cases start with
  | some place => exact .inr (stopsIn_bindRest h)
  | none =>
      cases tokens with
      | nil => contradiction
      | cons token rest =>
          cases hcontainer : binder.container with
          | none =>
              simp only [bindTokens, hcontainer] at h
              exact .inl (Except.error.inj h).symm
          | some container =>
              have hcons : ∀ rest, binder.bindTokens none (token :: rest) = do
                  let step ← faultAt 0 token
                    (binder.bindRoot container token >>= binder.finishStep token)
                  let others ← binder.bindRest step.place (0 + 1) rest
                  return step :: others := by
                intro rest
                simp only [bindTokens, hcontainer]
              exact .inr (stopsIn_cons rfl hcons (fun step _ herror => stopsIn_bindRest herror) h)

/-! ### Chains -/

/-- Tokens of which none is of the system, no fewer than one and no more than allowed, bind as they
can be gone through. -/
theorem bindChain_of_plain {start : Option Place} {tokens : List Token} (hne : tokens ≠ [])
    (hlength : tokens.length ≤ binder.settings.maxSegments)
    (hplain : ∀ token ∈ tokens, token.isSystem = false) :
    binder.bindChain start tokens = (binder.bindTokens start tokens).map ResourcePath.mk := by
  have hempty : tokens.isEmpty = false := by simpa using hne
  have hsystem : firstSystem? 0 tokens = none := firstSystem?_eq_none_iff.2 hplain
  simp [bindChain, hempty, Nat.not_lt.2 hlength, hsystem]

theorem bindChain_eq_error {start : Option Place} {tokens : List Token} {error : BindingError}
    {index : Nat} (hplain : ∀ token ∈ tokens, token.isSystem = false)
    (h : binder.bindChain start tokens = .error error) (hindex : error.index? = some index) :
    tokens.length ≤ binder.settings.maxSegments ∧
      binder.bindTokens start tokens = .error error := by
  by_cases hempty : tokens = []
  · subst hempty
    obtain rfl : BindingError.emptyPath = error := Except.error.inj h
    contradiction
  by_cases hmany : binder.settings.maxSegments < tokens.length
  · rw [bindChain, if_neg (by simpa using hempty), if_pos hmany] at h
    obtain rfl := Except.error.inj h
    contradiction
  have hlength := Nat.not_lt.1 hmany
  refine ⟨hlength, ?_⟩
  rw [bindChain_of_plain hempty hlength hplain] at h
  cases hsteps : binder.bindTokens start tokens with
  | ok steps =>
      rw [hsteps] at h
      contradiction
  | error found =>
      rw [hsteps] at h
      rw [show found = error from Except.error.inj h]

/-- Each token has a step of its own, under the identifier of the token. -/
theorem identifiers_of_runs {start : Option Place} {tokens : List Token} {steps : List Step}
    (h : Runs binder start tokens steps) :
    List.Forall₂ (fun token step => step.segment.identifier = token.identifier) tokens steps := by
  induction h with
  | nil start => exact .nil
  | cons hsegment _ _ ih => exact .cons (extends_of_binds hsegment).2 ih

/-- A path that binds does so with each prefix of its tokens. -/
theorem bindAt_take {start : Option NavigationSource} {chain : Chain} {path : ResourcePath}
    (h : binder.bindAt start chain = .ok path) {count : Nat} (hcount : 1 ≤ count) :
    binder.bindAt start (chain.take count) = .ok (path.take count) := by
  rw [bindAt_eq] at h ⊢
  obtain ⟨hne, hlength, hplain, hruns⟩ := bindChain_eq_ok_iff.1 h
  rw [Chain.tokens_take]
  refine bindChain_eq_ok_iff.2 ⟨?_, ?_, ?_, hruns.take count⟩
  · rw [ne_eq, List.take_eq_nil_iff, not_or]
    exact ⟨by omega, hne⟩
  · exact (List.length_take_le' _ _).trans hlength
  · exact fun token htoken => hplain token (List.mem_of_mem_take htoken)

/-- The token of a fault, with the chains that end in front of it, end with it, or go on behind. -/
theorem bindAt_eq_error {start : Option NavigationSource} {chain : Chain} {error : BindingError}
    {index : Nat} (hplain : ∀ token ∈ chain.tokens, token.isSystem = false)
    (h : binder.bindAt start chain = .error error) (hindex : error.index? = some index) :
    (∃ token fault, chain.tokens[index]? = some token ∧
        error = .token index token.identifier fault) ∧
      (0 < index → ∃ path, binder.bindAt start (chain.take index) = .ok path) ∧
      ∀ longer : Chain, longer.tokens.take (index + 1) = chain.tokens.take (index + 1) →
        (∀ token ∈ longer.tokens, token.isSystem = false) →
        longer.length ≤ binder.settings.maxSegments →
        binder.bindAt start longer = .error error := by
  rw [bindAt_eq] at h
  obtain ⟨hlength, hfails⟩ := bindChain_eq_error hplain h hindex
  rcases stopsIn_bindTokens hfails with rfl | ⟨front, token, back, fault, htokens, rfl, hstops⟩
  · contradiction
  rw [Nat.zero_add] at hindex hstops ⊢
  obtain rfl : front.length = index := Option.some.inj hindex
  refine ⟨⟨token, fault, ?_, rfl⟩, fun hpos => ?_, fun longer htake hothers hlimit => ?_⟩
  · rw [htokens, List.getElem?_append_right (Nat.le_refl _), Nat.sub_self]
    rfl
  · obtain ⟨steps, hsteps⟩ := hstops.reached
    have hfront : (chain.take front.length).tokens = front := by
      rw [Chain.tokens_take, htokens, List.take_left]
    refine ⟨⟨steps⟩, ?_⟩
    rw [bindAt_eq, hfront, bindChain_of_plain (List.ne_nil_of_length_pos hpos), hsteps]
    · rfl
    · rw [htokens, List.length_append] at hlength
      omega
    · exact fun other hmem => hplain other (htokens ▸ List.mem_append_left _ hmem)
  · -- A chain with the same first tokens is these, and then something.
    have hfirst : longer.tokens.take (front.length + 1) = front ++ [token] := by
      rw [htake, htokens, List.take_length_add_append]
      rfl
    have hsplit : longer.tokens = front ++ token :: longer.tokens.drop (front.length + 1) := by
      rw [← List.take_append_drop (front.length + 1) longer.tokens, hfirst]
      simp
    have hne : longer.tokens ≠ [] := by
      rw [hsplit]
      simp
    rw [bindAt_eq, bindChain_of_plain hne hlimit hothers, hsplit, hstops.stopped]
    rfl

/-- Binding looks at no token before its turn, and reports the first fault. -/
theorem bindAt_reports_first_fault (binder : Binder) (start : Option NavigationSource)
    (chain : Chain) :
    (∀ path, binder.bindAt start chain = .ok path →
      List.Forall₂ (fun token step => step.segment.identifier = token.identifier)
          chain.tokens path.steps ∧
        ∀ count, 1 ≤ count → count ≤ chain.length →
          binder.bindAt start (chain.take count) = .ok (path.take count) ∧
            (path.take count).segments <+: path.segments) ∧
    ((∀ token ∈ chain.tokens, token.isSystem = false) → ∀ error index,
      binder.bindAt start chain = .error error → error.index? = some index →
        (∃ token fault, chain.tokens[index]? = some token ∧
          error = .token index token.identifier fault) ∧
        (0 < index → ∃ path, binder.bindAt start (chain.take index) = .ok path) ∧
        binder.bindAt start (chain.take (index + 1)) = .error error ∧
        ∀ longer : Chain, longer.take (index + 1) = chain.take (index + 1) →
          (∀ token ∈ longer.tokens, token.isSystem = false) →
          longer.length ≤ binder.settings.maxSegments →
          binder.bindAt start longer = .error error) ∧
    ((∃ token ∈ chain.tokens, token.isSystem = true) →
      ∃ error, binder.bindAt start chain = .error error) := by
  refine ⟨fun path h => ⟨?_, fun count hcount _ => ?_⟩, fun hplain error index h hindex => ?_, ?_⟩
  · rw [bindAt_eq] at h
    obtain ⟨-, -, -, hruns⟩ := bindChain_eq_ok_iff.1 h
    exact identifiers_of_runs hruns
  · exact ⟨bindAt_take h hcount, path.segments_take_prefix count⟩
  · obtain ⟨htoken, hfront, hlonger⟩ := bindAt_eq_error hplain h hindex
    refine ⟨htoken, hfront, hlonger _ ?_ ?_ ?_, fun longer htake => hlonger longer ?_⟩
    · rw [Chain.tokens_take, List.take_take, Nat.min_self]
    · intro token hmem
      rw [Chain.tokens_take] at hmem
      exact hplain token (List.mem_of_mem_take hmem)
    · rw [bindAt_eq] at h
      rw [Chain.length, Chain.tokens_take]
      exact (List.length_take_le' _ _).trans (bindChain_eq_error hplain h hindex).1
    · rw [← Chain.tokens_take, htake, Chain.tokens_take]
  · rintro ⟨token, htoken, hsystem⟩
    cases h : binder.bindAt start chain with
    | error error => exact ⟨error, rfl⟩
    | ok path =>
        rw [bindAt_eq] at h
        obtain ⟨-, -, hplain, -⟩ := bindChain_eq_ok_iff.1 h
        rw [hplain token htoken] at hsystem
        contradiction

/-- Things with a number and a name. -/
def namedThings : Declared.Description where
  schemas := [{
    namespaceName := "N"
    entityTypes := [{
      name := "Thing", key := some ["Id"]
      properties := [
        { name := "Id", typeName := "Edm.Int32" }, { name := "Name", typeName := "Edm.String" }] }]
    containers := [{
      name := "Default", entitySets := [{ name := "Things", entityType := "N.Thing" }] }] }]

/-- The name of one of the things binds, and so does the thing; the size of one is no property,
whatever is asked of it. -/
theorem bindAt_reports_missing_property :
    let binder : Binder := .ofModel (.ofDescription namedThings) {}
    let named : Chain := .plain "Things" [⟨none, "2"⟩] (.plain "Name" [] .empty)
    let sized : Chain := .plain "Things" [⟨none, "2"⟩] (.plain "Size" [] (.plain "Name" [] .empty))
    let further : Chain := .plain "Things" [⟨none, "2"⟩] (.plain "Size" [] (.ending "Unit" .empty))
    let error : BindingError := .token 1 "Size" (.notFound (.type "N.Thing"))
    (∃ path, binder.bindAt none named = .ok path ∧
      binder.bindAt none (named.take 1) = .ok (path.take 1)) ∧
    (∀ token ∈ sized.tokens, token.isSystem = false) ∧
    binder.bindAt none sized = .error error ∧
    (∃ path, binder.bindAt none (sized.take 1) = .ok path) ∧
    binder.bindAt none (sized.take 2) = .error error ∧
    binder.bindAt none further = .error error := by
  intro binder named sized further error
  obtain ⟨hnamed, -, -⟩ := bindAt_reports_first_fault binder none named
  obtain ⟨-, hsized, -⟩ := bindAt_reports_first_fault binder none sized
  have hplain : ∀ token ∈ sized.tokens, token.isSystem = false := by decide
  have hpath : (binder.bindAt none named).toOption.isSome = true := by decide +kernel
  have herror : binder.bindAt none sized = .error error := by decide +kernel
  obtain ⟨path, hpath⟩ := Option.isSome_iff_exists.1 hpath
  have hbind := Outcome.eq_ok_of_toOption hpath
  obtain ⟨-, hfront, hstop, hlonger⟩ := hsized hplain error 1 herror rfl
  exact ⟨⟨path, hbind, ((hnamed path hbind).2 1 (by decide) (by decide)).1⟩, hplain, herror,
    hfront (by decide), hstop, hlonger further rfl (by decide) (by decide)⟩

end Binder
end ResourcePaths
