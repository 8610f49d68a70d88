/-!
# Steps that may fail

What is known of a step when what follows it has succeeded, and where a failure may come from.
-/

namespace NodeKeys

variable {ε δ α β : Type}

theorem bind_eq_ok {first : Except ε α} {next : α → Except ε β} {result : β}
    (succeeded : first >>= next = .ok result) : ∃ value, first = .ok value ∧ next value = .ok result := by
  cases first with
  | error error => cases succeeded
  | ok value => exact ⟨value, rfl, succeeded⟩

theorem bind_eq_error {first : Except ε α} {next : α → Except ε β} {error : ε}
    (failed : first >>= next = .error error) :
    first = .error error ∨ ∃ value, first = .ok value ∧ next value = .error error := by
  cases first with
  | error cause =>
    cases failed
    exact Or.inl rfl
  | ok value => exact Or.inr ⟨value, rfl, failed⟩

theorem map_eq_ok {first : Except ε α} {f : α → β} {result : β} (succeeded : first.map f = .ok result) :
    ∃ value, first = .ok value ∧ f value = result := by
  cases first with
  | error error => cases succeeded
  | ok value => exact ⟨value, rfl, Except.ok.inj succeeded⟩

theorem mapError_eq_ok {first : Except ε α} {f : ε → δ} {result : α}
    (succeeded : first.mapError f = .ok result) : first = .ok result := by
  cases first with
  | error error => cases succeeded
  | ok value => exact congrArg Except.ok (Except.ok.inj succeeded)

end NodeKeys
