import TextCursor.Proofs.Window.Conservation

/-!
# Valid views

A view is honest when its memo, whatever window and segmenter it was made for, holds the clusters of
that window of the source, and valid when its window fits the source as well. The clusters of an
honest view are those of its text (`View.Honest.clusters_eq`). Memoizing them or moving the window
over the source keeps a view honest, and moving it inside itself keeps it valid. The memo need not
be dropped when the window moves: what it holds stays true of the window that it was made for.
-/

namespace TextCursor

/-- The memo holds the clusters of the window of the source that it was made for. -/
def Memo.Honest (memo : Memo) (source : Text) : Prop :=
  memo.clusters = memo.segmenter.clusters (Window.mk source memo.start memo.size).text

namespace View

/-- The memo of the view, if it has one, is honest about the source of its window. -/
def Honest (v : View) : Prop :=
  ∀ memo, v.memo = some memo → memo.Honest v.window.source

/-- The window fits its source, and the memo is honest about that source. -/
structure Valid (v : View) : Prop where
  fits : v.window.Fits
  honest : v.Honest

variable {v : View}

/-- A new view has no memo to be wrong about. -/
theorem honest_ofWindow (w : Window) : (View.ofWindow w).Honest := by
  intro memo hmemo
  cases hmemo

/-- The clusters of an honest view are those of its text, whether or not it has a memo of them. -/
theorem Honest.clusters_eq (h : v.Honest) (segmenter : Segmenter) :
    v.clusters segmenter = segmenter.clusters v.text := by
  unfold View.clusters
  split
  · next memo hmemo =>
      split
      · next hkey =>
          obtain ⟨hstart, hsize, hsegmenter⟩ := hkey
          rw [h memo hmemo, hstart, hsize, hsegmenter]
          rfl
      · rfl
  · rfl

/-- Memoizing its clusters keeps a view honest. -/
theorem Honest.memoize (h : v.Honest) (segmenter : Segmenter) : (v.memoize segmenter).Honest := by
  intro memo hmemo
  cases hmemo
  exact h.clusters_eq segmenter

/-- Memoizing its clusters where they are needed keeps a view honest. -/
theorem Honest.memoizeIf (h : v.Honest) (needed : Bool) (segmenter : Segmenter) :
    (v.memoizeIf needed segmenter).Honest := by
  cases needed with
  | false => exact h
  | true => exact h.memoize segmenter

/-- Moving its window over the same source keeps a view honest. -/
theorem Honest.move (h : v.Honest) {w : Window} (hw : w.source = v.window.source) :
    (v.move w).Honest := by
  intro memo hmemo
  rw [View.move, hw]
  exact h memo hmemo

/-- A view without a memo has nothing to be wrong about. -/
theorem honest_forget (v : View) : v.forget.Honest := by
  intro memo hmemo
  cases hmemo

/-- Memoizing the clusters of an honest view comes to the same whether or not it had a memo. -/
theorem Honest.memoize_forget (h : v.Honest) (segmenter : Segmenter) :
    v.forget.memoize segmenter = v.memoize segmenter := by
  simp only [View.memoize, clusters_forget, h.clusters_eq]
  rfl

/-- A new view of a window that fits is valid. -/
theorem valid_ofWindow {w : Window} (h : w.Fits) : (View.ofWindow w).Valid where
  fits := h
  honest := honest_ofWindow w

/-- A new view of a whole text is valid. -/
theorem valid_ofText (text : Text) : (View.ofText text).Valid :=
  valid_ofWindow (Nat.le_of_eq (Nat.zero_add _))

/-- The clusters of a valid view are those of its text, whether or not it has a memo of them. -/
theorem Valid.clusters_eq (h : v.Valid) (segmenter : Segmenter) :
    v.clusters segmenter = segmenter.clusters v.text :=
  h.honest.clusters_eq segmenter

/-- The clusters of a valid view make up its window. -/
theorem Valid.madeOf (h : v.Valid) (segmenter : Segmenter) :
    v.window.MadeOf (v.clusters segmenter) := by
  rw [h.clusters_eq]
  exact Window.madeOf_clusters h.fits segmenter

/-- The clusters of a valid view stay those of its text when they are memoized. -/
theorem Valid.clusters_memoize (h : v.Valid) (segmenter : Segmenter) :
    (v.memoize segmenter).clusters segmenter = segmenter.clusters v.text := by
  rw [View.clusters_memoize, h.clusters_eq]

/-- Memoizing its clusters keeps a view valid. -/
theorem Valid.memoize (h : v.Valid) (segmenter : Segmenter) : (v.memoize segmenter).Valid where
  fits := h.fits
  honest := h.honest.memoize segmenter

/-- Memoizing its clusters where they are needed keeps a view valid. -/
theorem Valid.memoizeIf (h : v.Valid) (needed : Bool) (segmenter : Segmenter) :
    (v.memoizeIf needed segmenter).Valid where
  fits := (v.window_memoizeIf needed segmenter).symm ▸ h.fits
  honest := h.honest.memoizeIf needed segmenter

/-- Moving its window inside itself keeps a view valid. -/
theorem Valid.move (h : v.Valid) {w : Window} (hw : w.Inside v.window) : (v.move w).Valid where
  fits := hw.fits h.fits
  honest := h.honest.move hw.1

/-- What stands at the front of its text is no longer than a valid view. -/
theorem Valid.length_le (h : v.Valid) {front rest : Text} (htext : v.text = front ++ rest) :
    front.length ≤ v.window.size := by
  rw [← h.fits.length_text, ← View.text, htext, List.length_append]
  exact Nat.le_add_right _ _

/-- Behind what stands at the front of its text, a valid view is valid and shows the rest. -/
theorem Valid.drop (h : v.Valid) {front rest : Text} (htext : v.text = front ++ rest) :
    (v.move (v.window.drop front.length)).Valid ∧
      (v.move (v.window.drop front.length)).text = rest := by
  refine ⟨h.move (v.window.drop_inside (h.length_le htext)), ?_⟩
  show (v.window.drop front.length).text = rest
  rw [Window.text_drop, ← View.text, htext, List.drop_left]

end View

namespace Numeral

/-- What continues a number is some of the leading clusters. -/
theorem accepted_isPrefix (kind : NumberKind) (state : NumberState) (clusters : List Text) :
    accepted kind state clusters <+: clusters := by
  induction clusters generalizing state with
  | nil => exact List.prefix_rfl
  | cons cluster later ih =>
      rw [accepted]
      cases state.next kind cluster with
      | none => exact List.nil_prefix
      | some following => exact List.cons_prefix_cons.2 ⟨rfl, ih following⟩

/-- A scanned numeral is the text of some of the leading clusters. -/
theorem exists_append_of_scan {kind : NumberKind} {clusters : List Text} {numeral : Text}
    (h : scan kind clusters = some numeral) :
    ∃ front back, clusters = front ++ back ∧ front.flatten = numeral := by
  simp only [scan, Option.ite_none_right_eq_some, Option.some.injEq] at h
  obtain ⟨back, hback⟩ := accepted_isPrefix kind .start clusters
  exact ⟨_, back, hback.symm, h.2⟩

end Numeral

namespace View

variable {v : View}

/-- A number that has been chopped off an honest view was scanned from its clusters, its value is
that of the numeral, and the view stands behind the numeral. -/
theorem Honest.chopNumber_eq_some (h : v.Honest) {segmenter : Segmenter} {kind : NumberKind}
    {value : Datum} {behind : View}
    (hchop : v.chopNumber segmenter kind = .ok (some (value, behind))) :
    ∃ numeral, Numeral.scan kind (segmenter.clusters v.text) = some numeral ∧
      Numeral.read kind numeral = .ok value ∧
      behind = v.move (v.window.drop numeral.length) := by
  rw [chopNumber, Window.readNumber, h.clusters_eq] at hchop
  cases hscan : Numeral.scan kind (segmenter.clusters v.text) with
  | none => simp [hscan, Except.map] at hchop
  | some numeral =>
      cases hread : Numeral.read kind numeral with
      | error fault => simp [hscan, hread, Except.map] at hchop
      | ok number =>
          simp only [hscan, hread, Except.map, Option.map_some, Except.ok.injEq, Option.some.injEq,
            Prod.mk.injEq] at hchop
          obtain ⟨rfl, rfl⟩ := hchop
          exact ⟨numeral, rfl, hread, rfl⟩

end View

end TextCursor
