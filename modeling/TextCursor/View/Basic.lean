import TextCursor.Segmentation.Segmenter
import TextCursor.Window.Clusters

/-!
# Views

A view is a window that operations may move, together with a memo of its last segmentation. The
memo is used again while the window and the segmenter are those it was made for. Since the window
of a view moves over one source only, its bounds and the segmenter determine the clusters.
-/

namespace TextCursor

/-- A segmentation, and the window bounds and segmenter it was made for. -/
structure Memo where
  start : Nat
  size : Nat
  segmenter : Segmenter
  clusters : List Text

/-- A window that may be moved over its source, with a memo of its last segmentation. -/
structure View where
  window : Window
  memo : Option Memo := none

namespace View

/-- A view of a whole text. -/
def ofText (text : Text) : View :=
  { window := .ofText text }

/-- A view of a window. -/
def ofWindow (window : Window) : View :=
  { window := window }

/-- The text that the view shows. -/
def text (v : View) : Text :=
  v.window.text

/-- The memo was made for the window of the view and for this segmenter. -/
def Remembers (v : View) (segmenter : Segmenter) (memo : Memo) : Prop :=
  memo.start = v.window.start ∧ memo.size = v.window.size ∧ memo.segmenter = segmenter

/-- Whether a memo fits is decided by its key. -/
instance (v : View) (segmenter : Segmenter) (memo : Memo) :
    Decidable (v.Remembers segmenter memo) :=
  inferInstanceAs (Decidable (_ ∧ _))

/-- The clusters of the view: those of the memo where it fits, those of the text otherwise. -/
def clusters (v : View) (segmenter : Segmenter) : List Text :=
  match v.memo with
  | some memo =>
      if v.Remembers segmenter memo then memo.clusters else segmenter.clusters v.text
  | none => segmenter.clusters v.text

/-- The view with a memo of its clusters. -/
def memoize (v : View) (segmenter : Segmenter) : View :=
  { v with
    memo := some ⟨v.window.start, v.window.size, segmenter, v.clusters segmenter⟩ }

/-- The view with a memo of its clusters if they are needed, and with the memo that it has
otherwise. -/
def memoizeIf (v : View) (needed : Bool) (segmenter : Segmenter) : View :=
  if needed then v.memoize segmenter else v

/-- The view without a memo. -/
def forget (v : View) : View :=
  { v with memo := none }

/-- The view with its window moved. The memo stays, and fits again should the window return. -/
def move (v : View) (window : Window) : View :=
  { v with window := window }

/-- The view with what remains after a cut as its window. -/
def follow (v : View) (cut : Cut) : View :=
  v.move cut.rest

/-- A view without a memo has the clusters of its text. -/
@[simp] theorem clusters_forget (v : View) (segmenter : Segmenter) :
    v.forget.clusters segmenter = segmenter.clusters v.text := rfl

/-- Memoizing the clusters of a view does not change them. -/
@[simp] theorem clusters_memoize (v : View) (segmenter : Segmenter) :
    (v.memoize segmenter).clusters segmenter = v.clusters segmenter := by
  simp [clusters, memoize, Remembers]

/-- Memoizing does not move the view. -/
@[simp] theorem window_memoize (v : View) (segmenter : Segmenter) :
    (v.memoize segmenter).window = v.window := rfl

/-- Memoizing clusters where they are needed does not change them. -/
@[simp] theorem clusters_memoizeIf (v : View) (needed : Bool) (segmenter : Segmenter) :
    (v.memoizeIf needed segmenter).clusters segmenter = v.clusters segmenter := by
  cases needed with
  | false => rfl
  | true => exact clusters_memoize v segmenter

/-- Memoizing clusters where they are needed does not move the view. -/
@[simp] theorem window_memoizeIf (v : View) (needed : Bool) (segmenter : Segmenter) :
    (v.memoizeIf needed segmenter).window = v.window := by
  cases needed <;> rfl

end View

namespace Window

/-- The window without blank clusters in front. -/
def trimStart (w : Window) (clusters : List Text) : Window :=
  w.dropWhile clusters Cluster.isBlank

/-- The window without blank clusters at the back. -/
def trimEnd (w : Window) (clusters : List Text) : Window :=
  w.dropLastWhile clusters Cluster.isBlank

/-- The window without blank clusters on either side. What remains after trimming the front is
segmented anew. -/
def trim (w : Window) (clusters : List Text) (segmenter : Segmenter) : Window :=
  let trimmed := w.trimStart clusters
  trimmed.trimEnd (segmenter.clusters trimmed.text)

end Window

end TextCursor
