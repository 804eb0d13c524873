import TextCursor.Proofs.Number.Integer
import TextCursor.Proofs.Quoted
import TextCursor.View.Basic

/-!
# What messages say of windows

A message that shows a window says where the window begins and ends and what text it shows, and can
be read in one way only: the bounds are numbers that end at the first character that is no digit,
and a quoted text ends at its quote. So views are shown alike exactly if they have the same bounds
and the same text (`View.describe_window_eq_iff`).
-/

namespace TextCursor

/-- Windows that are shown alike have the same bounds and the same text. -/
theorem Window.describe_inj {v w : Window} (h : v.describe = w.describe) :
    v.start = w.start ∧ v.stop = w.stop ∧ v.text = w.text := by
  have hcolon (rest : Text) : Numeral.Undigited (Text.lit ":" ++ rest) :=
    Numeral.undigited_of_head? (c := ':') rfl rfl
  have hbracket (rest : Text) : Numeral.Undigited (Text.lit "]: " ++ rest) :=
    Numeral.undigited_of_head? (c := ']') rfl rfl
  unfold describe at h
  simp only [List.append_assoc] at h
  obtain ⟨hstart, hbehind⟩ :=
    Numeral.ofNat_append_inj (hcolon _) (hcolon _) (List.append_cancel_left h)
  obtain ⟨hstop, hbody⟩ :=
    Numeral.ofNat_append_inj (hbracket _) (hbracket _) (List.append_cancel_left hbehind)
  obtain ⟨htext, -⟩ := Text.quote_append_inj (List.append_cancel_left hbody)
  exact ⟨hstart, hstop, htext⟩

/-- Views are shown alike exactly if they have the same start, the same size and the same text,
whatever their sources are. -/
theorem View.describe_window_eq_iff (v w : View) :
    v.window.describe = w.window.describe ↔
      v.window.start = w.window.start ∧ v.window.size = w.window.size ∧ v.text = w.text := by
  constructor
  · intro h
    obtain ⟨hstart, hstop, htext⟩ := Window.describe_inj h
    refine ⟨hstart, ?_, htext⟩
    simp only [Window.stop] at hstop
    omega
  · rintro ⟨hstart, hsize, htext⟩
    have hstop : v.window.stop = w.window.stop := by rw [Window.stop, Window.stop, hstart, hsize]
    have hshown : v.window.text = w.window.text := htext
    unfold Window.describe
    rw [hstart, hstop, hshown]

/-- A text that holds a quote, a bracket and what looks like an escape. -/
example :
    (Window.ofText (Text.lit "]: 'a\\n\n")).describe =
      Text.lit "<StringView [0:8]: \"]: 'a\\\\n\\n\">" := by
  decide

end TextCursor
