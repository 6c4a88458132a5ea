/-!
# Outcomes

When a computation that may fail succeeds, so did each of its parts.  Two computations whose parts
come out alike come out alike themselves.
-/

namespace ResourcePaths
namespace Outcome

variable {ε α β : Type}

theorem bind_eq_ok_iff {first : Except ε α} {next : α → Except ε β} {result : β} :
    first >>= next = .ok result ↔ ∃ value, first = .ok value ∧ next value = .ok result := by
  cases first with
  | error fault =>
      constructor
      · intro h
        contradiction
      · rintro ⟨value, h, -⟩
        contradiction
  | ok value =>
      constructor
      · intro h
        exact ⟨value, rfl, h⟩
      · rintro ⟨_, ⟨rfl⟩, h⟩
        exact h

theorem map_eq_ok_iff {first : Except ε α} {next : α → β} {result : β} :
    first.map next = .ok result ↔ ∃ value, first = .ok value ∧ next value = result := by
  cases first with
  | error fault =>
      constructor
      · intro h
        contradiction
      · rintro ⟨value, h, -⟩
        contradiction
  | ok value =>
      constructor
      · intro h
        exact ⟨value, rfl, Except.ok.inj h⟩
      · rintro ⟨_, ⟨rfl⟩, rfl⟩
        rfl

theorem eq_ok_of_toOption {outcome : Except ε α} {value : α} (h : outcome.toOption = some value) :
    outcome = .ok value := by
  cases outcome with
  | error fault => contradiction
  | ok found => rw [Option.some.inj h]

/-! ### Outcomes that are alike -/

/-- Two computations fail with faults that are alike, or succeed with results that are. -/
inductive Alike {ε α ε' α' : Type} (faults : ε → ε' → Prop) (results : α → α' → Prop) :
    Except ε α → Except ε' α' → Prop
  | error {fault : ε} {other : ε'} (h : faults fault other) :
      Alike faults results (.error fault) (.error other)
  | ok {result : α} {other : α'} (h : results result other) :
      Alike faults results (.ok result) (.ok other)

namespace Alike

variable {ε' α' β' : Type} {faults : ε → ε' → Prop} {results : α → α' → Prop}
  {further : β → β' → Prop} {first : Except ε α} {other : Except ε' α'}

theorem exists_of_ok {result : α} (h : Alike faults results (.ok result) other) :
    ∃ found, other = .ok found ∧ results result found := by
  cases h with
  | ok hresult => exact ⟨_, rfl, hresult⟩

theorem bind (h : Alike faults results first other) {next : α → Except ε β}
    {more : α' → Except ε' β'}
    (hnext : ∀ result found, results result found →
      Alike faults further (next result) (more found)) :
    Alike faults further (first >>= next) (other >>= more) := by
  cases h with
  | error hfault => exact .error hfault
  | ok hresult => exact hnext _ _ hresult

theorem map (h : Alike faults results first other) {next : α → β} {more : α' → β'}
    (hnext : ∀ result found, results result found → further (next result) (more found)) :
    Alike faults further (first.map next) (other.map more) := by
  cases h with
  | error hfault => exact .error hfault
  | ok hresult => exact .ok (hnext _ _ hresult)

end Alike

end Outcome
end ResourcePaths
