import TextCursor.Settings.Outcome

/-!
# Outcomes one after the other

How outcomes are continued: a result without notices adds nothing to what follows it, it does not
matter which of two continuations are taken together, and a result may be seen as another value
before or behind a continuation. An error ends the matter in each case.
-/

namespace TextCursor.Outcome

variable {σ ε α β γ : Type}

/-- Continuing with a result that came without notices adds nothing to what follows. -/
theorem done_andThen (value : α) (state : σ) (next : α → σ → Outcome σ ε β) :
    (Outcome.done value state).andThen next = next value state := by
  simp [Outcome.andThen, Outcome.done]

/-- An outcome that was an error is not continued. -/
theorem andThen_of_error {o : Outcome σ ε α} {fault : ε} (h : o.result = .error fault)
    (next : α → σ → Outcome σ ε β) : o.andThen next = ⟨.error fault, o.state, o.notices⟩ := by
  simp only [andThen, h]

/-- An outcome that was a result is continued in the state that it left, behind its notices. -/
theorem andThen_of_ok {o : Outcome σ ε α} {value : α} (h : o.result = .ok value)
    (next : α → σ → Outcome σ ε β) :
    o.andThen next =
      ⟨(next value o.state).result, (next value o.state).state,
        o.notices ++ (next value o.state).notices⟩ := by
  simp only [andThen, h]

/-- Of two continuations, the second one may be taken as one of the first. -/
theorem andThen_assoc (o : Outcome σ ε α) (first : α → σ → Outcome σ ε β)
    (second : β → σ → Outcome σ ε γ) :
    (o.andThen first).andThen second =
      o.andThen fun value state => (first value state).andThen second := by
  obtain ⟨result, state, notices⟩ := o
  cases result with
  | error fault => rfl
  | ok value =>
      simp only [andThen]
      cases (first value state).result with
      | error fault => rfl
      | ok following => simp only [List.append_assoc]

/-- A result seen as another value is continued with that value. -/
theorem map_andThen (o : Outcome σ ε α) (f : α → β) (next : β → σ → Outcome σ ε γ) :
    (o.map f).andThen next = o.andThen fun value => next (f value) := by
  obtain ⟨result, state, notices⟩ := o
  cases result <;> rfl

/-- What a continuation comes to is seen as another value where the continuation is. -/
theorem andThen_map (o : Outcome σ ε α) (next : α → σ → Outcome σ ε β) (f : β → γ) :
    (o.andThen next).map f = o.andThen fun value state => (next value state).map f := by
  obtain ⟨result, state, notices⟩ := o
  cases result <;> rfl

/-- A result seen as itself is the same outcome. -/
theorem map_id (o : Outcome σ ε α) : o.map (fun value => value) = o := by
  obtain ⟨result, state, notices⟩ := o
  cases result <;> rfl

/-- A result seen as another value, and this as a third one. -/
theorem map_map (o : Outcome σ ε α) (f : α → β) (g : β → γ) :
    (o.map f).map g = o.map fun value => g (f value) := by
  obtain ⟨result, state, notices⟩ := o
  cases result <;> rfl

end TextCursor.Outcome
