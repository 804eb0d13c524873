import TextCursor.Settings.Notice

/-!
# Outcomes

An operation on a state comes to a result or an error, and leaves a state in either case.
-/

namespace TextCursor

/-- What an operation comes to: its result or error, the state it leaves, and the notices it
produced, in order. -/
structure Outcome (σ ε α : Type) where
  result : Except ε α
  state : σ
  notices : List Notice

namespace Outcome

variable {σ τ ε φ α β : Type}

/-- A result without notices. -/
def done (value : α) (state : σ) : Outcome σ ε α :=
  ⟨.ok value, state, []⟩

/-- An error without notices. -/
def failed (error : ε) (state : σ) : Outcome σ ε α :=
  ⟨.error error, state, []⟩

/-- The same outcome with its result seen as another value. -/
def map (f : α → β) (o : Outcome σ ε α) : Outcome σ ε β :=
  ⟨o.result.map f, o.state, o.notices⟩

/-- The same outcome with its error seen as another one. -/
def mapError (f : ε → φ) (o : Outcome σ ε α) : Outcome σ φ α :=
  ⟨o.result.mapError f, o.state, o.notices⟩

/-- The same outcome as part of a larger state. -/
def onState (f : σ → τ) (o : Outcome σ ε α) : Outcome τ ε α :=
  ⟨o.result, f o.state, o.notices⟩

/-- Continue with the result; an error ends the matter. -/
def andThen (o : Outcome σ ε α) (next : α → σ → Outcome σ ε β) : Outcome σ ε β :=
  match o.result with
  | .ok value =>
      let following := next value o.state
      { following with notices := o.notices ++ following.notices }
  | .error error => ⟨.error error, o.state, o.notices⟩

end Outcome

end TextCursor
