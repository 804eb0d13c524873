import TextCursor.Quoted

/-!
# Windows on a source text

A window shows a stretch of a source text without copying it. Offsets count code points. All
operations derive windows by `take` and `drop`, which use the count as it is given: that there are
as many code points is for the operation that gives the count to see to. Only `narrow` brings its
bounds into range. Messages show a window by its bounds and its text.
-/

namespace TextCursor

/-- A stretch of a source text: where it starts, and how many code points it shows. -/
structure Window where
  source : Text
  start : Nat
  size : Nat
  deriving DecidableEq

namespace Window

/-- The window lies inside its source. -/
def Fits (w : Window) : Prop :=
  w.start + w.size ≤ w.source.length

/-- A window fits or does not by a comparison of lengths. -/
instance (w : Window) : Decidable w.Fits :=
  inferInstanceAs (Decidable (_ ≤ _))

/-- The offset behind the last code point shown. -/
def stop (w : Window) : Nat :=
  w.start + w.size

/-- The text that the window shows. -/
def text (w : Window) : Text :=
  (w.source.drop w.start).take w.size

/-- The window as messages show it. -/
def describe (w : Window) : Text :=
  Text.lit "<StringView [" ++ Text.ofNat w.start ++ Text.lit ":" ++ Text.ofNat w.stop
    ++ Text.lit "]: " ++ w.text.quote ++ Text.lit ">"

/-- The window on a whole text. -/
def ofText (text : Text) : Window :=
  ⟨text, 0, text.length⟩

/-- The window on the first `n` code points. The window has to have so many. -/
def take (w : Window) (n : Nat) : Window :=
  { w with size := n }

/-- The window on what follows the first `n` code points. The window has to have so many. -/
def drop (w : Window) (n : Nat) : Window :=
  { w with start := w.start + n, size := w.size - n }

/-- The window of `size` code points from offset `start` of this one, each brought into range
first; up to the end when no size is given. -/
def narrow (w : Window) (start : Int) (size : Option Int) : Window :=
  let rest := w.drop (min start.toNat w.size)
  match size with
  | none => rest
  | some n => rest.take (min n.toNat rest.size)

/-- The first `n` code points of a window show the first `n` code points of its text. -/
theorem text_take (w : Window) {n : Nat} (h : n ≤ w.size) : (w.take n).text = w.text.take n := by
  simp [take, text, List.take_take, h]

/-- What follows the first `n` code points of a window shows what follows them in its text. -/
@[simp] theorem text_drop (w : Window) (n : Nat) : (w.drop n).text = w.text.drop n := by
  simp only [drop, text, List.drop_take, List.drop_drop]

/-- A window that fits shows as many code points as its size says. -/
theorem Fits.length_text {w : Window} (h : w.Fits) : w.text.length = w.size := by
  simp only [Fits] at h
  simp only [text, List.length_take, List.length_drop]
  omega

/-- Both windows show the same source, and every code point shown by `inner` is shown by
`outer`. -/
def Inside (inner outer : Window) : Prop :=
  inner.source = outer.source ∧ outer.start ≤ inner.start ∧ inner.stop ≤ outer.stop

end Window

/-- A window cut in two: the part that was removed and the part that remains. -/
structure Cut where
  removed : Window
  rest : Window
  deriving DecidableEq

namespace Cut

/-- Remove the first `n` code points, and `gap` more that belong to neither part. -/
def front (w : Window) (n gap : Nat) : Cut :=
  ⟨w.take n, w.drop (n + gap)⟩

/-- Keep the first `n` code points and remove the others. -/
def back (w : Window) (n : Nat) : Cut :=
  ⟨w.drop n, w.take n⟩

end Cut

end TextCursor
