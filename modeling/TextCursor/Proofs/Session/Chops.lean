import TextCursor.Proofs.View.Valid
import TextCursor.Session.Basic

/-!
# Chops conserve the window

Most chops make one cut of the view that they work on, answer the removed part as a new view, and
leave the view with the rest. `Session.cutOf?` is that cut and `Session.chopView_of_cut` what the
session makes of it. Chops off the front conserve the window up to a delimiter, chops off the back
conserve all of it, and a chopped number leaves everything behind its numeral: this is
`Session.chops_conserve`, for every valid view, every segmenter and every argument.
-/

namespace TextCursor

/-- The answer of a chop that has made a new view. The one that might have failed says that it has
not. -/
def Chop.answer : Chop → Answer → Answer
  | .tryThrough _, made => .found made
  | _, made => made

/-- The chop takes clusters or text off the back. -/
def Chop.AtBack : Chop → Prop
  | .last _ | .lastWhile _ => True
  | _ => False

/-- The chop looks at text and not at clusters. -/
def Chop.IgnoresClusters : Chop → Prop
  | .throughText _ => True
  | _ => False

namespace Session

/-- The cut that a chop makes of a view with these clusters. Chops that read a value make none. -/
def cutOf? (s : Session) (view : View) (clusters : List Text) : Chop → Option Cut
  | .first count => some (view.window.chopFirst clusters count)
  | .last count => some (view.window.chopLast clusters count)
  | .while test => some (view.window.chopWhile clusters test)
  | .lastWhile test => some (view.window.chopLastWhile clusters test)
  | .through delimiter =>
      some ((view.window.chopThrough? clusters (s.segmenter.clusters delimiter).length
        delimiter).getD view.window.chopAll)
  | .tryThrough delimiter =>
      view.window.chopThrough? clusters (s.segmenter.clusters delimiter).length delimiter
  | .throughText operand => (s.operandText? operand).map view.window.chopThroughText
  | .number _ _ | .chopper _ => none

/-- A chop that makes a cut is done when the view follows the cut and the removed part is a new
view. -/
theorem chopView_of_cut {s : Session} (handle : Nat) {view : View} {clusters : List Text}
    {chop : Chop} {cut : Cut} (h : s.cutOf? view clusters chop = some cut) :
    s.chopView handle view clusters chop =
      .done (chop.answer (s.followCut handle view cut).1) (s.followCut handle view cut).2 := by
  cases chop with
  | first | last | «while» | lastWhile | through =>
      cases h
      rfl
  | tryThrough delimiter =>
      rw [cutOf?] at h
      simp only [chopView, chopView.through?, h]
      rfl
  | throughText operand =>
      obtain ⟨needle, hneedle, rfl⟩ := Option.map_eq_some_iff.1 h
      simp only [chopView, withOperand, hneedle]
      rfl
  | number | chopper => cases h

/-- The delimiter that a chop off the front takes away behind the piece: the one that it was asked
for where the view has it, and none otherwise. There is no answer for a chop that takes nothing
off the front, either because it fails or because it is of another kind. -/
def gap? (s : Session) (view : View) : Chop → Option Text
  | .first _ | .while _ => some []
  | .through delimiter =>
      some (if s.segmenter.Occurs delimiter view.text then delimiter else [])
  | .tryThrough delimiter =>
      if s.segmenter.Occurs delimiter view.text then some delimiter else none
  | .throughText operand =>
      (s.operandText? operand).map fun needle => if needle <:+: view.text then needle else []
  | .last _ | .lastWhile _ | .number _ _ | .chopper _ => none

variable {s : Session} {handle : Nat} {view : View}

/-- A chop off the front of a valid view makes a cut that conserves its window, and its clusters
unless the chop is one that ignores them. -/
theorem exists_cut_of_gap (hvalid : view.Valid) {chop : Chop} {gap : Text}
    (h : s.gap? view chop = some gap) :
    ∃ cut, s.cutOf? view (s.segmenter.clusters view.text) chop = some cut ∧
      cut.ConservesFront view.window gap ∧
      (¬ chop.IgnoresClusters →
        s.segmenter.Partitions [cut.removed.text, gap, cut.rest.text] view.text) := by
  have hfits := hvalid.fits
  cases chop with
  | first count =>
      cases h
      obtain ⟨hwindow, hclusters⟩ :=
        Window.front_of_prefix hfits s.segmenter (List.take_prefix count.toNat _)
      exact ⟨_, rfl, hwindow, fun _ => hclusters⟩
  | «while» test =>
      cases h
      obtain ⟨hwindow, hclusters⟩ :=
        Window.front_of_prefix hfits s.segmenter (List.takeWhile_prefix test)
      exact ⟨_, rfl, hwindow, fun _ => hclusters⟩
  | through delimiter =>
      cases h
      have hsome : _ ↔ s.segmenter.Occurs delimiter view.text := Window.isSome_chopThrough?_iff
      refine ⟨_, rfl, ?_⟩
      -- there is a cut in either case: where the delimiter is missing, the whole window goes
      cases hcut : view.window.chopThrough? (s.segmenter.clusters view.window.text)
          (s.segmenter.clusters delimiter).length delimiter with
      | none =>
          have hmissing : ¬ s.segmenter.Occurs delimiter view.text := by
            simpa [hcut] using hsome
          obtain ⟨hwindow, hclusters⟩ := Window.chopAll_conserves hfits s.segmenter
          rw [if_neg hmissing, View.text, hcut]
          exact ⟨hwindow, fun _ => hclusters⟩
      | some cut =>
          have hthere : s.segmenter.Occurs delimiter view.text := by
            simpa [hcut] using hsome
          obtain ⟨hwindow, hclusters⟩ := Window.chopThrough?_conserves hfits hcut
          rw [if_pos hthere, View.text, hcut]
          exact ⟨hwindow, fun _ => hclusters⟩
  | tryThrough delimiter =>
      simp only [gap?, Option.ite_none_right_eq_some, Option.some.injEq] at h
      obtain ⟨hthere, rfl⟩ := h
      obtain ⟨cut, hcut⟩ := Option.isSome_iff_exists.1 (Window.isSome_chopThrough?_iff.2 hthere)
      obtain ⟨hwindow, hclusters⟩ := Window.chopThrough?_conserves hfits hcut
      exact ⟨cut, hcut, hwindow, fun _ => hclusters⟩
  | throughText operand =>
      obtain ⟨needle, hneedle, rfl⟩ := Option.map_eq_some_iff.1 h
      refine ⟨view.window.chopThroughText needle, ?_, ?_, fun hignores => absurd trivial hignores⟩
      · rw [cutOf?, hneedle, Option.map_some]
      · exact Window.chopThroughText_conserves hfits needle
  | last | lastWhile | number | chopper => cases h

/-- A chop off the back of a valid view makes a cut that conserves its window and its clusters. -/
theorem exists_cut_of_atBack (hvalid : view.Valid) {chop : Chop} (h : chop.AtBack) :
    ∃ cut, s.cutOf? view (s.segmenter.clusters view.text) chop = some cut ∧
      cut.ConservesBack view.window ∧
      s.segmenter.Partitions [cut.rest.text, cut.removed.text] view.text := by
  have hfits := hvalid.fits
  cases chop with
  | last count =>
      have hmade := Window.madeOf_clusters hfits s.segmenter
      refine ⟨_, congrArg some (hmade.chopLast_eq_back count), ?_⟩
      exact Window.back_of_prefix hfits (List.take_prefix _ _)
  | lastWhile test =>
      exact ⟨_, rfl, Window.back_of_prefix hfits (withoutLastWhile_isPrefix test _)⟩
  | first | «while» | through | tryThrough | throughText | number | chopper => cases h

/-- The segmenter in force does not depend on the views. -/
@[simp] theorem segmenter_putView (s : Session) (handle : Nat) (view : View) :
    (s.putView handle view).segmenter = s.segmenter := rfl

/-- The view that is put in the place of another one stands under its handle. -/
theorem getElem?_putView (hview : s.views[handle]? = some view) (moved : View) :
    (s.putView handle moved).views[handle]? = some moved :=
  List.getElem?_set_self (List.getElem?_eq_some_iff.1 hview).1

/-- Putting a view under a handle leaves the views under the others. -/
theorem getElem?_putView_of_ne {other : Nat} (h : handle ≠ other) (s : Session) (moved : View) :
    (s.putView handle moved).views[other]? = s.views[other]? :=
  List.getElem?_set_ne h

/-- Memoizing the view under a handle changes the text of no operand. -/
theorem operandText?_memoized (hview : s.views[handle]? = some view) (needed : Bool)
    (operand : Operand) :
    (s.putView handle (view.memoizeIf needed s.segmenter)).operandText? operand =
      s.operandText? operand := by
  cases operand with
  | text text => rfl
  | view other =>
      simp only [operandText?, putView, List.getElem?_set]
      split
      · next hsame =>
          subst hsame
          rw [if_pos (List.getElem?_eq_some_iff.1 hview).1, hview]
          simp [View.text]
      · rfl

/-- Memoizing a view does not change the cut that a chop makes of it. -/
theorem cutOf?_memoized (hview : s.views[handle]? = some view) (needed : Bool)
    (clusters : List Text) (chop : Chop) :
    (s.putView handle (view.memoizeIf needed s.segmenter)).cutOf?
        (view.memoizeIf needed s.segmenter) clusters chop =
      s.cutOf? view clusters chop := by
  cases chop with
  | throughText operand =>
      simp only [cutOf?, operandText?_memoized hview, View.window_memoizeIf]
  | first | last | «while» | lastWhile | through | tryThrough =>
      simp only [cutOf?, View.window_memoizeIf, segmenter_putView]
  | number | chopper => rfl

/-- The chop answered the removed part of the cut as a new view, and left the view under the handle
with the rest. -/
structure Takes (s : Session) (handle : Nat) (chop : Chop) (cut : Cut) : Prop where
  result : (s.step (.chop handle chop)).result =
    .ok (chop.answer (.view s.views.length cut.removed))
  receiver : (s.step (.chop handle chop)).state.views[handle]?.map View.window = some cut.rest
  returned : (s.step (.chop handle chop)).state.views[s.views.length]?.map View.window =
    some cut.removed

/-- The views once one of them has followed a cut. -/
theorem views_followCut (s : Session) (handle : Nat) (view : View) (cut : Cut) :
    (s.followCut handle view cut).2.views =
      s.views.set handle (view.follow cut) ++ [.ofWindow cut.removed] := rfl

/-- The view that follows a cut stays under its handle. -/
theorem getElem?_followCut (hview : s.views[handle]? = some view) (moved : View) (cut : Cut) :
    (s.followCut handle moved cut).2.views[handle]? = some (moved.follow cut) := by
  have hput := getElem?_putView hview (moved.follow cut)
  have hhandle := (List.getElem?_eq_some_iff.1 hput).1
  exact (List.getElem?_append_left hhandle).trans hput

/-- A chop that makes a cut of a valid view lets the view follow it, with the memo that the chop may
have needed. -/
theorem step_of_cut (hview : s.views[handle]? = some view) (hvalid : view.Valid) {chop : Chop}
    {cut : Cut} (hcut : s.cutOf? view (s.segmenter.clusters view.text) chop = some cut) :
    let seen := view.memoizeIf (chop.needsClusters s.segmenter) s.segmenter
    let followed := (s.putView handle seen).followCut handle seen cut
    s.step (.chop handle chop) = .done (chop.answer followed.1) followed.2 := by
  intro seen followed
  rw [← hvalid.clusters_eq, ← cutOf?_memoized hview (chop.needsClusters s.segmenter)] at hcut
  simp only [step, hview, chopView_of_cut handle hcut]
  rfl

/-- What a chop does to a valid view that it makes a cut of. -/
theorem takes_of_cut (hview : s.views[handle]? = some view) (hvalid : view.Valid) {chop : Chop}
    {cut : Cut} (hcut : s.cutOf? view (s.segmenter.clusters view.text) chop = some cut) :
    s.Takes handle chop cut := by
  have hstep := step_of_cut hview hvalid hcut
  constructor
  · simp [hstep, Outcome.done, followCut, addView, putView]
  · rw [hstep, Outcome.done, getElem?_followCut (getElem?_putView hview _)]
    rfl
  · rw [hstep, Outcome.done, views_followCut, List.getElem?_append_right (by simp [putView])]
    simp [putView, View.ofWindow]

/-- A number that has been chopped off a valid view takes its numeral and nothing else. -/
theorem exists_cut_of_number (hview : s.views[handle]? = some view) (hvalid : view.Valid)
    {kind : NumberKind} {answer : Answer}
    (h : (s.step (.chop handle (.number kind none))).result = .ok (.found answer)) :
    ∃ cut : Cut,
      (s.step (.chop handle (.number kind none))).state.views[handle]?.map View.window =
        some cut.rest ∧
      Numeral.scan kind (s.segmenter.clusters view.text) = some cut.removed.text ∧
      cut.ConservesFront view.window [] ∧
      s.segmenter.Partitions [cut.removed.text, cut.rest.text] view.text := by
  have hhandle : handle < s.views.length := (List.getElem?_eq_some_iff.1 hview).1
  simp only [step, hview, chopView, segmenter_putView] at h ⊢
  have hseen := hvalid.memoizeIf (Chop.needsClusters s.segmenter (.number kind none)) s.segmenter
  cases hchop : View.chopNumber (view.memoizeIf _ s.segmenter) s.segmenter kind with
  | error fault => simp [hchop, Outcome.failed] at h
  | ok number =>
      cases number with
      | none => simp [hchop, Outcome.done, numberAnswer] at h
      | some reading =>
          obtain ⟨value, behind⟩ := reading
          obtain ⟨numeral, hscan, -, rfl⟩ :=
            hseen.honest.chopNumber_eq_some hchop
          -- the numeral consists of whole clusters, so a cut behind it parts none
          obtain ⟨front, back, hclusters, rfl⟩ := Numeral.exists_append_of_scan hscan
          obtain ⟨hwindow, hpieces⟩ :=
            Window.front_of_prefix hvalid.fits s.segmenter ⟨back, hclusters.symm⟩
          have hmade : view.window.MadeOf (front ++ back) :=
            hclusters ▸ Window.madeOf_clusters hvalid.fits s.segmenter
          refine ⟨_, ?_, ?_, hwindow, ?_⟩
          · simp [Outcome.done, putView, hhandle, View.move, Cut.front, extent]
          · rw [Cut.front, hmade.text_take_extent]
            exact hscan
          · simpa [Segmenter.Partitions, View.text] using hpieces

/-- A chop that looks for a delimiter that does not occur, and may say so, finds nothing. -/
theorem tryThrough_notFound (hview : s.views[handle]? = some view) (hvalid : view.Valid)
    {delimiter : Text} (h : ¬ s.segmenter.Occurs delimiter view.text) :
    (s.step (.chop handle (.tryThrough delimiter))).result = .ok .notFound := by
  have hnone : view.window.chopThrough? (view.clusters s.segmenter)
      (s.segmenter.clusters delimiter).length delimiter = none := by
    rw [hvalid.clusters_eq, ← Option.not_isSome_iff_eq_none]
    exact fun hsome => h (Window.isSome_chopThrough?_iff.1 hsome)
  simp [step, hview, chopView, chopView.through?, hnone, Outcome.done]

/-- Every chop of a valid view conserves its window. A chop off the front answers a piece that
begins where the window did, leaves a rest that ends where it did, and loses nothing between them
but the delimiter, if one was asked for and occurs; a chop off the back leaves a rest that begins
where the window did and meets the piece, which ends where it did; a chopped number leaves what is
behind its numeral. The clusters of the pieces, each segmented alone, are those of the window, for
all chops but the one that looks at text only. -/
theorem chops_conserve (hview : s.views[handle]? = some view) (hvalid : view.Valid) :
    (∀ chop gap, s.gap? view chop = some gap →
      ∃ cut, s.Takes handle chop cut ∧ cut.ConservesFront view.window gap ∧
        (¬ chop.IgnoresClusters →
          s.segmenter.Partitions [cut.removed.text, gap, cut.rest.text] view.text)) ∧
    (∀ delimiter, s.gap? view (.tryThrough delimiter) = none →
      (s.step (.chop handle (.tryThrough delimiter))).result = .ok .notFound) ∧
    (∀ chop : Chop, chop.AtBack →
      ∃ cut, s.Takes handle chop cut ∧ cut.ConservesBack view.window ∧
        s.segmenter.Partitions [cut.rest.text, cut.removed.text] view.text) ∧
    (∀ kind answer,
      (s.step (.chop handle (.number kind none))).result = .ok (.found answer) →
      ∃ cut : Cut,
        (s.step (.chop handle (.number kind none))).state.views[handle]?.map View.window =
          some cut.rest ∧
        Numeral.scan kind (s.segmenter.clusters view.text) = some cut.removed.text ∧
        cut.ConservesFront view.window [] ∧
        s.segmenter.Partitions [cut.removed.text, cut.rest.text] view.text) := by
  refine ⟨?_, ?_, ?_, fun kind answer h => exists_cut_of_number hview hvalid h⟩
  · intro chop gap hgap
    obtain ⟨cut, hcut, hwindow, hclusters⟩ := exists_cut_of_gap hvalid hgap
    exact ⟨cut, takes_of_cut hview hvalid hcut, hwindow, hclusters⟩
  · intro delimiter hgap
    apply tryThrough_notFound hview hvalid
    simpa [gap?] using hgap
  · intro chop hback
    obtain ⟨cut, hcut, hwindow, hclusters⟩ := exists_cut_of_atBack hvalid hback
    exact ⟨cut, takes_of_cut hview hvalid hcut, hwindow, hclusters⟩

/-- A number, a delimiter and a flag in the middle of a source: chopping through the delimiter, off
the back, and the number itself. -/
theorem chops_conserve_number_and_flag :
    let view := View.ofWindow ⟨['(', '1', '2', ',', ' ', '🇩', '🇪', ')'], 1, 6⟩
    let s : Session := { settings := {}, views := [view] }
    s.views[0]? = some view ∧ view.Valid ∧
      s.gap? view (.through [',', ' ']) = some [',', ' '] ∧
      (∃ cut, s.Takes 0 (.through [',', ' ']) cut ∧
        cut.ConservesFront view.window [',', ' '] ∧
        s.segmenter.Partitions [cut.removed.text, [',', ' '], cut.rest.text] view.text) ∧
      s.gap? view (.tryThrough [';']) = none ∧
      (s.step (.chop 0 (.tryThrough [';']))).result = .ok .notFound ∧
      (∃ cut, s.Takes 0 (.last 1) cut ∧ cut.ConservesBack view.window ∧
        s.segmenter.Partitions [cut.rest.text, cut.removed.text] view.text) ∧
      (s.step (.chop 0 (.number .whole none))).result = .ok (.found (.value (.int 12))) ∧
      ∃ cut : Cut,
        (s.step (.chop 0 (.number .whole none))).state.views[0]?.map View.window =
          some cut.rest ∧
        Numeral.scan .whole (s.segmenter.clusters view.text) = some cut.removed.text ∧
        cut.ConservesFront view.window [] ∧
        s.segmenter.Partitions [cut.removed.text, cut.rest.text] view.text := by
  intro view s
  have hview : s.views[0]? = some view := rfl
  have hvalid : view.Valid := View.valid_ofWindow (by decide)
  have hgap : s.gap? view (.through [',', ' ']) = some [',', ' '] := by decide
  have hmissing : s.gap? view (.tryThrough [';']) = none := by decide
  have hnumber : (s.step (.chop 0 (.number .whole none))).result =
      .ok (.found (.value (.int 12))) := rfl
  obtain ⟨hfront, htry, hback, hnumbers⟩ := chops_conserve hview hvalid
  obtain ⟨cut, htakes, hwindow, hclusters⟩ := hfront _ _ hgap
  exact ⟨hview, hvalid, hgap, ⟨cut, htakes, hwindow, hclusters id⟩, hmissing, htry _ hmissing,
    hback (.last 1) trivial, hnumber, hnumbers _ _ hnumber⟩

end Session

end TextCursor
