import ResourcePaths.Proofs.Path.TokenLists

/-!
# Lists of segments

A chain is built from texts one by one: each is read as a segment, and the token of the segment is
linked to the end of the chain so far.  Behind a system token nothing can be linked, which shows
only when the next text has been read.  So the fault that is reported is that of the first place
with a fault, and a text that is no segment counts there before the system token in front of it.
-/

namespace ResourcePaths

/-- The only fault of a text is that it is no segment. -/
theorem RawSegment.exists_fault_of_ofText {text : String} {error : SyntaxError}
    (h : ofText text = .error error) : ∃ fault, error = .invalidSegment text fault := by
  simp only [ofText] at h
  split at h
  · exact ⟨_, (Except.error.inj h).symm⟩
  · split at h
    · exact ⟨_, (Except.error.inj h).symm⟩
    · split at h
      · split at h
        · contradiction
        · exact ⟨_, (Except.error.inj h).symm⟩
      · split at h
        · contradiction
        · exact ⟨_, (Except.error.inj h).symm⟩

theorem RawSegment.isSystem_iff_of_ofText {text : String} {segment : RawSegment}
    (h : ofText text = .ok segment) :
    segment.isSystem = true ↔ text.toList.head? = some Token.systemMark := by
  rw [isSystem_of_writes (writes_of_ofText h), decide_eq_true_eq]

namespace Chain

/-- What is wrong at a place of a list of texts: the text there is no segment, or it is one and the
text in front of it is a system segment. -/
inductive FaultAt (texts : List String) : Nat → SyntaxError → Prop
  | unread {place : Nat} {text : String} {fault : SegmentFault} (htext : texts[place]? = some text)
      (hfault : RawSegment.ofText text = .error (.invalidSegment text fault)) :
      FaultAt texts place (.invalidSegment text fault)
  | behindSystem {place : Nat} {before text : String} {system segment : RawSegment}
      (hbefore : texts[place]? = some before) (hread : RawSegment.ofText before = .ok system)
      (hsystem : system.isSystem = true) (htext : texts[place + 1]? = some text)
      (hsegment : RawSegment.ofText text = .ok segment) :
      FaultAt texts (place + 1) (.illegalSystemToken system.identifier)

/-- What is wrong at the first place where something is. -/
def FirstFault (texts : List String) (error : SyntaxError) : Prop :=
  ∃ place, FaultAt texts place error ∧ ∀ earlier < place, ∀ other, ¬ FaultAt texts earlier other

variable {texts rest : List String} {text : String} {error other : SyntaxError} {place : Nat}

/-! ### Places -/

theorem FaultAt.unique (h : FaultAt texts place error) (hother : FaultAt texts place other) :
    error = other := by
  cases h with
  | unread htext hfault =>
      cases hother with
      | unread htext' hfault' =>
          obtain rfl := Option.some.inj (htext.symm.trans htext')
          exact Except.error.inj (hfault.symm.trans hfault')
      | behindSystem _ _ _ htext' hsegment =>
          obtain rfl := Option.some.inj (htext.symm.trans htext')
          exact nomatch hfault.symm.trans hsegment
  | behindSystem hbefore hread _ htext hsegment =>
      cases hother with
      | unread htext' hfault =>
          obtain rfl := Option.some.inj (htext.symm.trans htext')
          exact nomatch hsegment.symm.trans hfault
      | behindSystem hbefore' hread' _ _ _ =>
          obtain rfl := Option.some.inj (hbefore.symm.trans hbefore')
          rw [Except.ok.inj (hread.symm.trans hread')]

theorem FirstFault.unique (h : FirstFault texts error) (hother : FirstFault texts other) :
    error = other := by
  obtain ⟨place, hplace, hfirst⟩ := h
  obtain ⟨place', hplace', hfirst'⟩ := hother
  rcases Nat.lt_trichotomy place place' with hlt | rfl | hlt
  · exact absurd hplace (hfirst' place hlt error)
  · exact hplace.unique hplace'
  · exact absurd hplace' (hfirst place' hlt other)

/-- A list of segments of which only the last may be a system segment has no fault. -/
theorem not_faultAt (hread : ∀ text ∈ texts, ∃ segment, RawSegment.ofText text = .ok segment)
    (hmarks : ∀ text ∈ texts.dropLast, text.toList.head? ≠ some Token.systemMark) :
    ¬ FaultAt texts place error := by
  intro h
  cases h with
  | unread htext hfault =>
      obtain ⟨segment, hsegment⟩ := hread _ (List.mem_of_getElem? htext)
      rw [hfault] at hsegment
      contradiction
  | @behindSystem place before text system segment hbefore hsegment hsystem htext _ =>
      have hmem : before ∈ texts.dropLast := by
        have hplace := (List.getElem?_eq_some_iff.1 htext).1
        refine List.mem_of_getElem? (i := place) ?_
        rw [List.getElem?_dropLast, if_pos (by omega), hbefore]
      exact hmarks before hmem ((RawSegment.isSystem_iff_of_ofText hsegment).1 hsystem)

theorem FaultAt.cons (h : FaultAt rest place error) : FaultAt (text :: rest) (place + 1) error := by
  cases h with
  | unread htext hfault => exact .unread htext hfault
  | behindSystem hbefore hread hsystem htext hsegment =>
      exact .behindSystem hbefore hread hsystem htext hsegment

theorem not_faultAt_zero {segment : RawSegment} (hread : RawSegment.ofText text = .ok segment) :
    ¬ FaultAt (text :: rest) 0 error := by
  intro h
  cases h with
  | unread htext hfault =>
      obtain rfl := Option.some.inj htext
      rw [hread] at hfault
      contradiction

/-- Behind a plain segment the faults are those of the other texts. -/
theorem FirstFault.cons {segment : RawSegment} (hread : RawSegment.ofText text = .ok segment)
    (hplain : segment.isSystem = false) (h : FirstFault rest error) :
    FirstFault (text :: rest) error := by
  obtain ⟨place, hplace, hfirst⟩ := h
  refine ⟨place + 1, hplace.cons, fun earlier hearlier other hother => ?_⟩
  cases earlier with
  | zero => exact not_faultAt_zero hread hother
  | succ earlier =>
      refine hfirst earlier (by omega) other ?_
      cases hother with
      | unread htext hfault => exact .unread htext hfault
      | behindSystem hbefore hsegment hsystem htext hnext =>
          cases earlier with
          | zero =>
              obtain rfl := Option.some.inj hbefore
              rw [hread] at hsegment
              rw [← Except.ok.inj hsegment, hplain] at hsystem
              contradiction
          | succ earlier => exact .behindSystem hbefore hsegment hsystem htext hnext

theorem FaultAt.firstFault_zero (h : FaultAt texts 0 error) : FirstFault texts error :=
  ⟨0, h, fun _ hearlier => absurd hearlier (Nat.not_lt_zero _)⟩

theorem FaultAt.firstFault_one {segment : RawSegment}
    (hread : RawSegment.ofText text = .ok segment) (h : FaultAt (text :: rest) 1 error) :
    FirstFault (text :: rest) error := by
  refine ⟨1, h, fun earlier hearlier other => ?_⟩
  obtain rfl : earlier = 0 := Nat.lt_one_iff.1 hearlier
  exact not_faultAt_zero hread

/-! ### The run -/

theorem appendSegments_of_unread {chain : Chain} (h : RawSegment.ofText text = .error error) :
    chain.appendSegments (text :: rest) = .error error := by
  rw [appendSegments, h]
  rfl

theorem appendSegments_of_append {chain longer : Chain} {segment : RawSegment}
    (h : RawSegment.ofText text = .ok segment)
    (hlonger : chain.append segment.toToken.toChain = .ok longer) :
    chain.appendSegments (text :: rest) = longer.appendSegments rest := by
  rw [appendSegments, h]
  show chain.append segment.toToken.toChain >>= _ = _
  rw [hlonger]
  rfl

/-- What follows a system segment decides the fault: the chain cannot grow any more. -/
theorem appendSegments_of_system {longer : Chain} {segment : RawSegment} {next : String}
    {more : List String} (hread : RawSegment.ofText text = .ok segment)
    (hsystem : segment.isSystem = true)
    (hlonger : longer.firstSystem? = some segment.identifier) :
    ∃ error, longer.appendSegments (next :: more) = .error error ∧
      FirstFault (text :: next :: more) error := by
  cases hnext : RawSegment.ofText next with
  | error error =>
      obtain ⟨fault, rfl⟩ := RawSegment.exists_fault_of_ofText hnext
      exact ⟨_, appendSegments_of_unread hnext, FaultAt.firstFault_one hread (.unread rfl hnext)⟩
  | ok following =>
      refine ⟨.illegalSystemToken segment.identifier, ?_,
        FaultAt.firstFault_one hread (.behindSystem rfl hread hsystem rfl hnext)⟩
      rw [appendSegments, hnext]
      show longer.append following.toToken.toChain >>= _ = _
      rw [append_of_system hlonger]
      rfl

theorem forall_mem_dropLast_cons {holds : String → Prop} (htext : holds text)
    (hrest : ∀ other ∈ rest.dropLast, holds other) :
    ∀ other ∈ (text :: rest).dropLast, holds other := by
  cases rest with
  | nil => exact List.forall_mem_nil _
  | cons next more => exact List.forall_mem_cons.2 ⟨htext, hrest⟩

/-- Building on from a chain of plain tokens links the tokens of all texts, or stops with the first
fault. -/
theorem appendSegments_cases {chain : Chain} (hchain : chain.IsPlain) (texts : List String) :
    (∃ longer segments, chain.appendSegments texts = .ok longer ∧
        List.Forall₂ (fun text segment => RawSegment.ofText text = .ok segment) texts segments ∧
        (∀ text ∈ texts.dropLast, text.toList.head? ≠ some Token.systemMark) ∧
        longer.tokens = chain.tokens ++ segments.map RawSegment.toToken) ∨
      ∃ error, chain.appendSegments texts = .error error ∧ FirstFault texts error := by
  induction texts generalizing chain with
  | nil => exact .inl ⟨chain, [], rfl, .nil, List.forall_mem_nil _, (List.append_nil _).symm⟩
  | cons text rest ih =>
      cases hread : RawSegment.ofText text with
      | error error =>
          obtain ⟨fault, rfl⟩ := RawSegment.exists_fault_of_ofText hread
          exact .inr ⟨_, appendSegments_of_unread hread,
            FaultAt.firstFault_zero (.unread rfl hread)⟩
      | ok segment =>
          cases hsystem : segment.isSystem with
          | false =>
              obtain ⟨longer, hlonger, htokens, hplain⟩ :=
                append_toChain hchain segment.identifier segment.values
              rw [← RawSegment.toToken_of_isSystem_eq_false hsystem] at hlonger htokens
              rw [appendSegments_of_append hread hlonger]
              rcases ih hplain with ⟨whole, segments, hwhole, hsegments, hmarks, hall⟩ |
                ⟨error, herror, hfirst⟩
              · refine .inl ⟨whole, segment :: segments, hwhole, .cons hread hsegments, ?_, ?_⟩
                · refine forall_mem_dropLast_cons (fun hmark => ?_) hmarks
                  rw [(RawSegment.isSystem_iff_of_ofText hread).2 hmark] at hsystem
                  contradiction
                · rw [hall, htokens, List.append_assoc]
                  rfl
              · exact .inr ⟨error, herror, hfirst.cons hread hsystem⟩
          | true =>
              have hmark : segment.toToken = .system segment.identifier := if_pos hsystem
              obtain ⟨longer, hlonger, htokens⟩ := append_of_isPlain segment.toToken.toChain hchain
              rw [tokens_toChain] at htokens
              rw [appendSegments_of_append hread hlonger]
              cases rest with
              | nil =>
                  exact .inl ⟨longer, [segment], rfl, .cons hread .nil, List.forall_mem_nil _,
                    htokens⟩
              | cons next more =>
                  have hplain : ∀ token ∈ chain.tokens, token.isSystem = false := by
                    intro token hmem
                    obtain ⟨_, _, rfl⟩ := hchain token hmem
                    rfl
                  rw [hmark] at htokens
                  exact .inr (appendSegments_of_system hread hsystem
                    (firstSystem?_of_tokens htokens hplain))

/-! ### Whole lists -/

theorem exists_read_of_forall₂ {segments : List RawSegment}
    (h : List.Forall₂ (fun text segment => RawSegment.ofText text = .ok segment) texts segments) :
    ∀ text ∈ texts, ∃ segment, RawSegment.ofText text = .ok segment := by
  induction h with
  | nil => exact List.forall_mem_nil _
  | cons hread _ ih => exact List.forall_mem_cons.2 ⟨⟨_, hread⟩, ih⟩

/-- A list of texts makes up a chain exactly if each of them is a segment and only the last one may
begin with the mark of system segments; the tokens of the chain are then those of the segments in
their order.  Otherwise the fault is that of the first place with a fault, where a text that is no
segment comes before the system segment in front of it. -/
theorem ofSegments_reports_first_fault (texts : List String) :
    ((∃ chain, ofSegments texts = .ok chain) ↔
      (∀ text ∈ texts, ∃ segment, RawSegment.ofText text = .ok segment) ∧
        ∀ text ∈ texts.dropLast, text.toList.head? ≠ some Token.systemMark) ∧
    (∀ chain, ofSegments texts = .ok chain → ∃ segments,
      List.Forall₂ (fun text segment => RawSegment.ofText text = .ok segment) texts segments ∧
        chain.tokens = segments.map RawSegment.toToken) ∧
    ∀ error, ofSegments texts = .error error ↔ FirstFault texts error := by
  have hempty : empty.IsPlain := List.forall_mem_nil _
  rcases appendSegments_cases hempty texts with
    ⟨longer, segments, hlonger, hsegments, hmarks, hall⟩ | ⟨error, herror, hfirst⟩
  · have hread : ∀ text ∈ texts, ∃ segment, RawSegment.ofText text = .ok segment :=
      exists_read_of_forall₂ hsegments
    refine ⟨iff_of_true ⟨longer, hlonger⟩ ⟨hread, hmarks⟩, fun chain hchain => ?_, fun error => ?_⟩
    · obtain rfl := Except.ok.inj (hlonger.symm.trans hchain)
      exact ⟨segments, hsegments, hall⟩
    · refine iff_of_false (fun herror => ?_) ?_
      · exact nomatch hlonger.symm.trans herror
      · rintro ⟨place, hplace, -⟩
        exact not_faultAt hread hmarks hplace
  · refine ⟨iff_of_false ?_ ?_, fun chain hchain => ?_,
      fun other => ⟨fun hother => ?_, fun hother => ?_⟩⟩
    · rintro ⟨chain, hchain⟩
      exact nomatch hchain.symm.trans herror
    · rintro ⟨hread, hmarks⟩
      obtain ⟨place, hplace, -⟩ := hfirst
      exact not_faultAt hread hmarks hplace
    · exact nomatch hchain.symm.trans herror
    · obtain rfl := Except.error.inj (herror.symm.trans hother)
      exact hfirst
    · rw [hother.unique hfirst]
      exact herror

-- Nothing can follow the count, but that shows only at a text that can be read.
example : ofSegments ["Orders", "$count", "Lines("] =
    .error (.invalidSegment "Lines(" (.unread ['('])) := by
  decide +kernel

example : ofSegments ["Orders", "$count", "Lines", "("] =
    .error (.illegalSystemToken "$count") := by
  decide +kernel

end Chain
end ResourcePaths
