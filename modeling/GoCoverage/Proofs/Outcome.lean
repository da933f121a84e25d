/-! # Steps that may fail

A run that succeeds has succeeded in each of its steps.  Two runs are compared by how they end: both
fail, and with the same failure, or both succeed, and their results are related (`Alike`). -/

namespace GoCoverage

variable {ε ε' α β : Type}

theorem bind_eq_ok {outcome : Except ε α} {next : α → Except ε β} {b : β} :
    outcome >>= next = .ok b ↔ ∃ a, outcome = .ok a ∧ next a = .ok b := by
  cases outcome with
  | error e =>
    constructor
    · intro h
      cases h
    · rintro ⟨a, h, _⟩
      cases h
  | ok a =>
    constructor
    · intro h
      exact ⟨a, rfl, h⟩
    · rintro ⟨_, same, h⟩
      cases same
      exact h

theorem map_eq_ok {outcome : Except ε α} {f : α → β} {b : β} :
    outcome.map f = .ok b ↔ ∃ a, outcome = .ok a ∧ f a = b := by
  cases outcome with
  | error e =>
    constructor
    · intro h
      cases h
    · rintro ⟨a, h, _⟩
      cases h
  | ok a =>
    constructor
    · intro h
      cases h
      exact ⟨a, rfl, rfl⟩
    · rintro ⟨_, same, rfl⟩
      cases same
      rfl

theorem map_eq_error {outcome : Except ε α} {f : α → β} {e : ε} :
    outcome.map f = .error e ↔ outcome = .error e := by
  cases outcome with
  | error e' =>
    constructor
    · intro h
      cases h
      rfl
    · intro h
      cases h
      rfl
  | ok a =>
    constructor
    · intro h
      cases h
    · intro h
      cases h

theorem mapError_eq_ok {outcome : Except ε α} {f : ε → ε'} {a : α} :
    outcome.mapError f = .ok a ↔ outcome = .ok a := by
  cases outcome with
  | error e =>
    constructor
    · intro h
      cases h
    · intro h
      cases h
  | ok a' =>
    constructor
    · intro h
      cases h
      rfl
    · intro h
      cases h
      rfl

theorem toOption_eq_some {outcome : Except ε α} {a : α} :
    outcome.toOption = some a ↔ outcome = .ok a := by
  cases outcome with
  | error e =>
    constructor
    · intro h
      cases h
    · intro h
      cases h
  | ok a' =>
    constructor
    · intro h
      cases h
      rfl
    · intro h
      cases h
      rfl

/-- A run is known to have succeeded from something that can be told of its result. -/
theorem exists_eq_ok_of_map {outcome : Except ε α} {f : α → β} {b : β}
    (h : outcome.toOption.map f = some b) : ∃ a, outcome = .ok a ∧ f a = b := by
  obtain ⟨a, succeeded, same⟩ := Option.map_eq_some_iff.mp h
  exact ⟨a, toOption_eq_some.mp succeeded, same⟩

/-! ## Two runs -/

/-- Two runs fail with the same failure, or both succeed with related results. -/
inductive Alike (related : α → β → Prop) : Except ε α → Except ε β → Prop where
  | failed (e : ε) : Alike related (.error e) (.error e)
  | succeeded {a : α} {b : β} (h : related a b) : Alike related (.ok a) (.ok b)

namespace Alike

theorem exists_of_ok {related : α → β → Prop} {a : α} {other : Except ε β}
    (h : Alike related (.ok a) other) : ∃ b, other = .ok b ∧ related a b := by
  cases h with
  | succeeded h => exact ⟨_, rfl, h⟩

end Alike

end GoCoverage
