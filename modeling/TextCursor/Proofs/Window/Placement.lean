import TextCursor.Proofs.Window.Inside

/-!
# Windows placed in windows

The text that a window shows is itself a text that windows may show parts of. `Window.placedIn`
gives for a window on that text the window of the original source that shows the same. Cutting
commutes with placing: no operation on windows depends on where in a source it works, nor on what
stands around the text that it works on.
-/

namespace TextCursor

namespace Window

/-- The window on the source of `outer` that shows what this window shows of the text of `outer`. -/
def placedIn (w outer : Window) : Window :=
  ⟨outer.source, outer.start + w.start, w.size⟩

variable {w outer : Window}

/-- The window on the whole text of a window is, placed in it, that window. -/
theorem ofText_placedIn (h : outer.Fits) : (ofText outer.text).placedIn outer = outer := by
  rw [placedIn, ofText, h.length_text, Nat.add_zero]

/-- A placed window shows what the window shows. -/
theorem text_placedIn (hsource : w.source = outer.text) (hfits : w.Fits) :
    (w.placedIn outer).text = w.text := by
  have hsize : w.size ≤ outer.size - w.start := by
    have hlength : outer.text.length ≤ outer.size := List.length_take_le _ _
    simp only [Fits, hsource] at hfits
    omega
  show (outer.source.drop (outer.start + w.start)).take w.size =
    (w.source.drop w.start).take w.size
  rw [hsource, text, List.drop_take, List.drop_drop, List.take_take, Nat.min_eq_left hsize]

/-- Taking the front commutes with placing. -/
@[simp] theorem take_placedIn (w outer : Window) (n : Nat) :
    (w.placedIn outer).take n = (w.take n).placedIn outer := rfl

/-- Dropping the front commutes with placing. -/
@[simp] theorem drop_placedIn (w outer : Window) (n : Nat) :
    (w.placedIn outer).drop n = (w.drop n).placedIn outer := by
  simp only [drop, placedIn, Nat.add_assoc]

/-- Narrowing commutes with placing. -/
@[simp] theorem narrow_placedIn (w outer : Window) (start : Int) (size : Option Int) :
    (w.placedIn outer).narrow start size = (w.narrow start size).placedIn outer := by
  have hsize : (w.placedIn outer).size = w.size := rfl
  cases size with
  | none => simp only [narrow, drop_placedIn, hsize]
  | some n =>
      simp only [narrow, drop_placedIn, hsize]
      rfl

/-- Slicing commutes with placing. -/
@[simp] theorem slice_placedIn (w outer : Window) (clusters : List Text)
    (first last : Option Int) :
    (w.placedIn outer).slice clusters first last =
      (w.slice clusters first last).placedIn outer := by
  simp only [slice, take_placedIn, drop_placedIn]

/-- Trimming commutes with placing, where the placed window shows the same text: what remains of it
in front is segmented anew. -/
theorem trim_placedIn (htext : (w.placedIn outer).text = w.text) (clusters : List Text)
    (segmenter : Segmenter) :
    (w.placedIn outer).trim clusters segmenter = (w.trim clusters segmenter).placedIn outer := by
  have hstart : (w.placedIn outer).trimStart clusters = (w.trimStart clusters).placedIn outer :=
    drop_placedIn w outer _
  have htrimmed : ((w.placedIn outer).trimStart clusters).text = (w.trimStart clusters).text := by
    show ((w.placedIn outer).drop _).text = (w.drop _).text
    rw [text_drop, text_drop, htext]
  rw [trim, trim, htrimmed, hstart]
  rfl

end Window

namespace Cut

/-- Both parts of the cut placed in the window. -/
def placedIn (cut : Cut) (outer : Window) : Cut :=
  ⟨cut.removed.placedIn outer, cut.rest.placedIn outer⟩

/-- Cutting at the front commutes with placing. -/
@[simp] theorem front_placedIn (w outer : Window) (n gap : Nat) :
    front (w.placedIn outer) n gap = (front w n gap).placedIn outer := by
  simp only [front, placedIn, Window.take_placedIn, Window.drop_placedIn]

/-- Cutting at the back commutes with placing. -/
@[simp] theorem back_placedIn (w outer : Window) (n : Nat) :
    back (w.placedIn outer) n = (back w n).placedIn outer := by
  simp only [back, placedIn, Window.take_placedIn, Window.drop_placedIn]

end Cut

namespace Window

variable {w outer : Window}

/-- Chopping clusters off the back commutes with placing. -/
theorem chopLast_placedIn (w outer : Window) (clusters : List Text) (count : Int) :
    (w.placedIn outer).chopLast clusters count = (w.chopLast clusters count).placedIn outer := by
  have hsize : (w.placedIn outer).size = w.size := rfl
  unfold chopLast
  split <;> simp only [Cut.back_placedIn, hsize]

/-- Chopping through a delimiter commutes with placing. -/
theorem chopThrough?_placedIn (w outer : Window) (clusters : List Text) (count : Nat)
    (delimiter : Text) :
    (w.placedIn outer).chopThrough? clusters count delimiter =
      (w.chopThrough? clusters count delimiter).map (·.placedIn outer) := by
  simp only [chopThrough?, Option.map_map, Function.comp_def, Cut.front_placedIn]

/-- Chopping the whole window commutes with placing. -/
theorem chopAll_placedIn (w outer : Window) :
    (w.placedIn outer).chopAll = w.chopAll.placedIn outer :=
  Cut.front_placedIn w outer _ _

/-- Chopping through a text commutes with placing, where the placed window shows the same text. -/
theorem chopThroughText_placedIn (htext : (w.placedIn outer).text = w.text) (needle : Text) :
    (w.placedIn outer).chopThroughText needle = (w.chopThroughText needle).placedIn outer := by
  rw [chopThroughText, chopThroughText, htext]
  cases Text.indexOf? needle w.text with
  | none => exact chopAll_placedIn w outer
  | some offset => exact Cut.front_placedIn w outer _ _

end Window

end TextCursor
