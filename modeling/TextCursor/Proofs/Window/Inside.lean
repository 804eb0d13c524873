import TextCursor.Proofs.Window.Search
import TextCursor.View.Basic

/-!
# Windows inside windows

Every operation on a window answers windows inside it, and so windows that fit the source. The
operations give `Window.take` and `Window.drop` an offset that is the extent of some leading
clusters, and nothing checks it: that it lies in the window follows from the clusters making up the
text of the window (`Window.MadeOf`).
-/

namespace TextCursor

/-- The extent of clusters in two parts is that of both together. -/
theorem extent_append (front back : List Text) :
    extent (front ++ back) = extent front + extent back := by
  simp [extent]

/-- Some of the leading clusters do not extend beyond all of them. -/
theorem extent_le_of_prefix {front clusters : List Text} (h : front <+: clusters) :
    extent front ≤ extent clusters := by
  obtain ⟨back, rfl⟩ := h
  rw [extent_append]
  exact Nat.le_add_right _ _

/-- The clusters in front of the trailing ones that pass the test are leading clusters. -/
theorem withoutLastWhile_isPrefix (test : Text → Bool) (clusters : List Text) :
    withoutLastWhile test clusters <+: clusters := by
  rw [withoutLastWhile, ← List.reverse_suffix, List.reverse_reverse]
  exact List.dropWhile_suffix test

namespace Window

variable {w inner outer : Window} {clusters : List Text}

/-- A window lies inside itself. -/
theorem Inside.refl (w : Window) : w.Inside w :=
  ⟨rfl, Nat.le_refl _, Nat.le_refl _⟩

/-- A window inside a window that lies inside a third one lies inside that one. -/
theorem Inside.trans {middle : Window} (h : inner.Inside middle) (h' : middle.Inside outer) :
    inner.Inside outer :=
  ⟨h.1.trans h'.1, Nat.le_trans h'.2.1 h.2.1, Nat.le_trans h.2.2 h'.2.2⟩

/-- What lies inside a window that fits its source fits it as well. -/
theorem Inside.fits (h : inner.Inside outer) (hfits : outer.Fits) : inner.Fits := by
  obtain ⟨hsource, -, hstop⟩ := h
  rw [Fits, hsource]
  exact Nat.le_trans hstop hfits

/-- The front of a window lies inside it. -/
theorem take_inside (w : Window) {n : Nat} (h : n ≤ w.size) : (w.take n).Inside w := by
  refine ⟨rfl, Nat.le_refl _, ?_⟩
  simp only [take, stop]
  omega

/-- The rest of a window lies inside it. -/
theorem drop_inside (w : Window) {n : Nat} (h : n ≤ w.size) : (w.drop n).Inside w := by
  refine ⟨rfl, Nat.le_add_right _ _, ?_⟩
  simp only [drop, stop]
  omega

/-- A window still ends where it did when its front has been dropped. -/
theorem stop_drop (w : Window) {n : Nat} (h : n ≤ w.size) : (w.drop n).stop = w.stop := by
  simp only [drop, stop]
  omega

/-- Dropping twice is dropping both together. -/
theorem drop_drop (w : Window) (m n : Nat) : (w.drop m).drop n = w.drop (m + n) := by
  simp [drop, Nat.add_assoc, Nat.sub_sub]

/-- The window on a whole text shows it. -/
theorem text_ofText (text : Text) : (ofText text).text = text :=
  List.take_length

/-- Whatever the bounds asked for, narrowing a window gives one inside it. -/
theorem narrow_inside (w : Window) (start : Int) (size : Option Int) :
    (w.narrow start size).Inside w := by
  have hrest : (w.drop (min start.toNat w.size)).Inside w := w.drop_inside (Nat.min_le_right _ _)
  cases size with
  | none => exact hrest
  | some n => exact (take_inside _ (Nat.min_le_right _ _)).trans hrest

/-- The clusters make up the text of the window, which fits its source. -/
structure MadeOf (w : Window) (clusters : List Text) : Prop where
  fits : w.Fits
  flatten : clusters.flatten = w.text

/-- A window that fits is made of the clusters that any segmenter finds in its text. -/
theorem madeOf_clusters (hfits : w.Fits) (segmenter : Segmenter) :
    w.MadeOf (segmenter.clusters w.text) :=
  ⟨hfits, ClusterRule.flatten_clusters _ _⟩

/-- The clusters of a window extend over the whole of it. -/
theorem MadeOf.extent_eq (h : w.MadeOf clusters) : extent clusters = w.size := by
  rw [extent, h.flatten, h.fits.length_text]

/-- Leading clusters do not extend beyond the window. -/
theorem MadeOf.extent_le (h : w.MadeOf clusters) {front : List Text} (hfront : front <+: clusters) :
    extent front ≤ w.size := by
  rw [← h.extent_eq]
  exact extent_le_of_prefix hfront

/-- The front of a window up to the extent of leading clusters shows these clusters. -/
theorem MadeOf.text_take_extent {front back : List Text} (h : w.MadeOf (front ++ back)) :
    (w.take (extent front)).text = front.flatten := by
  rw [w.text_take (h.extent_le (List.prefix_append _ _)), ← h.flatten, List.flatten_append, extent,
    List.take_left]

/-- The rest of a window behind the extent of leading clusters shows the other clusters. -/
theorem MadeOf.text_drop_extent {front back : List Text} (h : w.MadeOf (front ++ back)) :
    (w.drop (extent front)).text = back.flatten := by
  rw [w.text_drop, ← h.flatten, List.flatten_append, extent, List.drop_left]

/-- A counted chop off the back cuts in front of so many clusters. Where none are asked for, that is
the end of the window. -/
theorem MadeOf.chopLast_eq_back (h : w.MadeOf clusters) (count : Int) :
    w.chopLast clusters count =
      .back w (extent (clusters.take (clusters.length - count.toNat))) := by
  rw [chopLast]
  split
  · next hnone =>
      rw [Int.toNat_of_nonpos hnone, Nat.sub_zero, List.take_length, h.extent_eq]
  · rfl

/-- A slice lies inside the window, whatever its bounds. -/
theorem MadeOf.slice_inside (h : w.MadeOf clusters) (first last : Option Int) :
    (w.slice clusters first last).Inside w := by
  have hwhole := fun n => w.take_inside (h.extent_le (List.take_prefix n clusters))
  have horder : ∀ lower upper,
      extent (clusters.take lower) ≤ extent (clusters.take (max lower upper)) := by
    intro lower upper
    exact extent_le_of_prefix (List.take_prefix_take_left (Nat.le_max_left _ _))
  exact (drop_inside _ (horder _ _)).trans (hwhole _)

/-- A window without some of its leading clusters lies inside it. -/
theorem MadeOf.dropWhile_inside (h : w.MadeOf clusters) (test : Text → Bool) :
    (w.dropWhile clusters test).Inside w :=
  w.drop_inside (h.extent_le (List.takeWhile_prefix test))

/-- A window without some of its trailing clusters lies inside it. -/
theorem MadeOf.dropLastWhile_inside (h : w.MadeOf clusters) (test : Text → Bool) :
    (w.dropLastWhile clusters test).Inside w :=
  w.take_inside (h.extent_le (withoutLastWhile_isPrefix test clusters))

/-- A trimmed window lies inside the window, also where its front has been segmented anew. -/
theorem MadeOf.trim_inside (h : w.MadeOf clusters) (segmenter : Segmenter) :
    (w.trim clusters segmenter).Inside w := by
  have hstart : (w.trimStart clusters).Inside w := h.dropWhile_inside Cluster.isBlank
  have hmade := madeOf_clusters (hstart.fits h.fits) segmenter
  exact (hmade.dropLastWhile_inside Cluster.isBlank).trans hstart

end Window

namespace Cut

variable {w : Window} {clusters : List Text}

/-- Both parts of the cut lie inside the window. -/
structure Inside (cut : Cut) (w : Window) : Prop where
  removed : cut.removed.Inside w
  rest : cut.rest.Inside w

/-- A cut at the front stays inside the window when what it passes over is there. -/
theorem front_inside (w : Window) {n gap : Nat} (h : n + gap ≤ w.size) :
    (front w n gap).Inside w where
  removed := w.take_inside (by omega)
  rest := w.drop_inside h

/-- A cut at the back stays inside the window when what it keeps is there. -/
theorem back_inside (w : Window) {n : Nat} (h : n ≤ w.size) : (back w n).Inside w where
  removed := w.drop_inside h
  rest := w.take_inside h

end Cut

end TextCursor
