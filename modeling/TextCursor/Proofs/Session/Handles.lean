import TextCursor.Proofs.Session.Frame
import TextCursor.Proofs.Window.Stretch

/-!
# What stands under a handle

All that the steps on a view depend on is the window that stands under its handle, and the clusters
of that window (`Session.Holds`). A chop that makes a cut leaves the rest under the handle
(`Session.Holds.chop`), and a derivation puts a new window under a new one
(`Session.Holds.derive`), so that runs of such steps can be followed from one step to the next.
-/

namespace TextCursor

/-- The clusters of a valid view are those of its window. -/
theorem View.Valid.hasClusters {view : View} (h : view.Valid) (segmenter : Segmenter) :
    view.window.HasClusters segmenter (segmenter.clusters view.text) :=
  ⟨h.fits, rfl⟩

namespace Session

/-- Under the handle stands a valid view of this window, which has these clusters. -/
def Holds (s : Session) (handle : Nat) (w : Window) (clusters : List Text) : Prop :=
  ∃ view, s.views[handle]? = some view ∧ view.Valid ∧ view.window = w ∧
    s.segmenter.clusters view.text = clusters

/-- The derivation answered this window as a new view, and changed no other window and no
setting. -/
structure Makes (s : Session) (handle : Nat) (derivation : Derivation) (w : Window) : Prop where
  result : (s.step (.derive handle derivation)).result = .ok (.view s.views.length w)
  windows : (s.step (.derive handle derivation)).state.windows = s.windows ++ [w]
  settings : (s.step (.derive handle derivation)).state.settings = s.settings

variable {s : Session} {handle : Nat} {view : View} {w : Window} {clusters : List Text}

/-- A valid view stands under its handle with the clusters of its text. -/
theorem holds_of_valid (hview : s.views[handle]? = some view) (hvalid : view.Valid) :
    s.Holds handle view.window (s.segmenter.clusters view.text) :=
  ⟨view, hview, hvalid, rfl, rfl⟩

/-- The window under a handle has the clusters that it is said to have. -/
theorem Holds.hasClusters (h : s.Holds handle w clusters) : w.HasClusters s.segmenter clusters := by
  obtain ⟨view, -, hvalid, rfl, rfl⟩ := h
  exact hvalid.hasClusters s.segmenter

/-- The window under a handle is the one that the session has there. -/
theorem Holds.windows (h : s.Holds handle w clusters) : s.windows[handle]? = some w := by
  obtain ⟨view, hview, -, rfl, -⟩ := h
  rw [windows_getElem?, hview, Option.map_some]

/-- A chop that makes a cut of the view under a handle leaves the rest there. -/
theorem Holds.chop (h : s.Holds handle w clusters) {chop : Chop} {cut : Cut}
    (hcut : ∀ view : View, view.window = w → s.cutOf? view clusters chop = some cut)
    {rest : List Text} (hrest : cut.rest.HasClusters s.segmenter rest) :
    s.Takes handle chop cut ∧ (s.step (.chop handle chop)).state.Holds handle cut.rest rest := by
  obtain ⟨view, hview, hvalid, rfl, rfl⟩ := h
  have hmade := hcut view rfl
  have hseen := hvalid.memoizeIf (chop.needsClusters s.segmenter) s.segmenter
  have hinside : cut.rest.Inside
      (view.memoizeIf (chop.needsClusters s.segmenter) s.segmenter).window := by
    rw [View.window_memoizeIf]
    exact (cutOf?_inside hvalid hmade).rest
  refine ⟨takes_of_cut hview hvalid hmade, ?_⟩
  rw [step_of_cut hview hvalid hmade]
  exact ⟨_, getElem?_followCut (getElem?_putView hview _) _ cut, hseen.move hinside, rfl,
    hrest.clusters_eq⟩

/-- A derivation puts the window that it makes under a new handle. -/
theorem Holds.derive (h : s.Holds handle w clusters) (derivation : Derivation) {made : Window}
    (hmade : deriveWindow s.segmenter w clusters derivation = .ok made) {run : List Text}
    (hrun : made.HasClusters s.segmenter run) :
    s.Makes handle derivation made ∧
      (s.step (.derive handle derivation)).state.Holds s.views.length made run := by
  obtain ⟨view, hview, hvalid, rfl, rfl⟩ := h
  let seen := s.memoizedIf derivation.needsClusters handle
  have hlength : seen.views.length = s.views.length := List.length_modify _ _ _
  have hstep : s.step (.derive handle derivation) =
      .done (seen.addView made).1 (seen.addView made).2 := by
    simp only [step, hview, hvalid.clusters_eq, hmade]
    rfl
  refine ⟨⟨?_, ?_, ?_⟩, .ofWindow made, ?_, View.valid_ofWindow hrun.fits, rfl, ?_⟩
  · rw [hstep, Outcome.done, addView, hlength]
  · rw [hstep, Outcome.done, windows_addView, (unmoved_memoizedIf hview _).windows]
  · rw [hstep]
    rfl
  · rw [hstep, Outcome.done, addView, ← hlength]
    exact List.getElem?_concat_length
  · rw [hstep]
    exact hrun.clusters_eq

end Session

end TextCursor
