import TextCursor.Proofs.Session.Frame

/-!
# Loops that use a view up

A loop takes the same steps in every round, and begins a round as long as a view shows anything.
`Session.Drains` says that it ends and what it answers: there is no fuel, so a loop that goes on for
ever, or one of whose steps fails, is in the relation with nothing. What the loop answers and where
it ends are determined (`Session.Drains.unique`).
-/

namespace TextCursor

/-- The text of the new view that an answer tells of. -/
def Answer.text? (answer : Answer) : Option Text :=
  answer.made?.map fun made => made.2.text

namespace Session

/-- From one session, the loop over some steps ends in another, with the answers of each round. A
round is begun when the view under the handle is not empty, and all its steps have to succeed. -/
inductive Drains (handle : Nat) (body : List Step) :
    Session → List (List Answer) → Session → Prop where
  | done {s : Session} {w : Window} (hwindow : s.windows[handle]? = some w) (hempty : w.size = 0) :
      Drains handle body s [] s
  | round {s final : Session} {w : Window} {answers : List Answer} {rounds : List (List Answer)}
      (hwindow : s.windows[handle]? = some w) (hleft : 0 < w.size)
      (hanswers : (s.run body).map Outcome.result = answers.map .ok)
      (hlater : Drains handle body (s.after body) rounds final) :
      Drains handle body s (answers :: rounds) final

/-- A loop that ends has one course only. -/
theorem Drains.unique {handle : Nat} {body : List Step} {s final other : Session}
    {rounds others : List (List Answer)} (h : Drains handle body s rounds final)
    (hother : Drains handle body s others other) : others = rounds ∧ other = final := by
  induction h generalizing others with
  | done hwindow hempty =>
      cases hother with
      | done => exact ⟨rfl, rfl⟩
      | round hwindow' hleft =>
          rw [hwindow, Option.some.injEq] at hwindow'
          subst hwindow'
          omega
  | round hwindow hleft hanswers hlater ih =>
      cases hother with
      | done hwindow' hempty =>
          rw [hwindow, Option.some.injEq] at hwindow'
          subst hwindow'
          omega
      | round _ _ hanswers' hlater' =>
          obtain ⟨rfl, rfl⟩ := ih hlater'
          rw [hanswers] at hanswers'
          have hsame := List.map_injective_iff.2 (fun _ _ => Except.ok.inj) hanswers'
          exact ⟨by rw [hsame], rfl⟩

end Session

end TextCursor
