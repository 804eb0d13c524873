import TextCursor.Text

/-!
# Results seen as other values

What is known of a result or an error from what is known of it seen as another value.
-/

namespace Except

variable {ε α β : Type} {f : α → β} {result : Except ε α}

/-- A result seen as another value is a value of the function at the result. -/
theorem map_eq_ok_iff {value : β} :
    result.map f = .ok value ↔ ∃ seen, result = .ok seen ∧ f seen = value := by
  cases result with
  | error fault => simp [Except.map]
  | ok seen => simp [Except.map]

/-- An error is not changed by seeing results as other values. -/
theorem map_eq_error_iff {fault : ε} : result.map f = .error fault ↔ result = .error fault := by
  cases result with
  | error fault => simp [Except.map]
  | ok seen => simp [Except.map]

/-- An operation with another one behind it comes to a result when both do, one after the other. -/
theorem bind_eq_ok_iff {next : α → Except ε β} {value : β} :
    (result >>= next) = .ok value ↔ ∃ seen, result = .ok seen ∧ next seen = .ok value := by
  cases result with
  | error fault => simp [Bind.bind, Except.bind]
  | ok seen => simp [Bind.bind, Except.bind]

/-- An operation with another one behind it fails when the first one does, or when the second one
does behind a result of the first. -/
theorem bind_eq_error_iff {next : α → Except ε β} {fault : ε} :
    (result >>= next) = .error fault ↔
      result = .error fault ∨ ∃ seen, result = .ok seen ∧ next seen = .error fault := by
  cases result with
  | error other => simp [Bind.bind, Except.bind]
  | ok seen => simp [Bind.bind, Except.bind]

end Except
