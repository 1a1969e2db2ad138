/-!
# Outcomes that succeed

A computation that can fail succeeds only where each of its parts does. The lemmas here take a
success apart: of a mapped outcome, of two computations in turn, and of one whose error is told in
other words.
-/

set_option autoImplicit false

namespace RealmConvergence

variable {ε δ α β : Type}

/-- A mapped outcome is there where the outcome is. -/
theorem exists_of_map_eq_ok {outcome : Except ε α} {f : α → β} {value : β}
    (mapped : outcome.map f = .ok value) : ∃ inner, outcome = .ok inner ∧ f inner = value := by
  cases outcome with
  | error problem => cases mapped
  | ok inner =>
      cases mapped
      exact ⟨inner, rfl, rfl⟩

/-- Of two computations in turn both succeed. -/
theorem bind_eq_ok_iff {outcome : Except ε α} {next : α → Except ε β} {value : β} :
    (outcome >>= next) = .ok value ↔ ∃ inner, outcome = .ok inner ∧ next inner = .ok value := by
  constructor
  · intro succeeds
    cases outcome with
    | error problem => cases succeeds
    | ok inner => exact ⟨inner, rfl, succeeds⟩
  · rintro ⟨inner, rfl, succeeds⟩
    exact succeeds

/-- After a check that passes, the rest succeeds. -/
theorem check_bind_eq_ok_iff {check : Except ε Unit} {next : Unit → Except ε β} {value : β} :
    (check >>= next) = .ok value ↔ check = .ok () ∧ next () = .ok value := by
  cases check <;> simp [bind, Except.bind]

/-- Other words for an error do not touch a success. -/
theorem mapError_eq_ok_iff {outcome : Except ε α} {f : ε → δ} {value : α} :
    outcome.mapError f = .ok value ↔ outcome = .ok value := by
  cases outcome with
  | error problem => exact ⟨(fun wrong => nomatch wrong), fun wrong => nomatch wrong⟩
  | ok inner =>
      constructor
      · intro same
        cases same
        rfl
      · intro same
        cases same
        rfl

/-- A value is known of a success alone. -/
theorem toOption_eq_some_iff {outcome : Except ε α} {value : α} :
    outcome.toOption = some value ↔ outcome = .ok value := by
  cases outcome <;> simp [Except.toOption]

/-- An outcome of which something is known is there. -/
theorem exists_of_toOption_map {outcome : Except ε α} {f : α → β} {value : β}
    (known : outcome.toOption.map f = some value) :
    ∃ inner, outcome = .ok inner ∧ f inner = value := by
  cases outcome with
  | error problem => cases known
  | ok inner =>
      cases known
      exact ⟨inner, rfl, rfl⟩

end RealmConvergence
