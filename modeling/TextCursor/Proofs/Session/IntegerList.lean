import TextCursor.Proofs.Number.Written
import TextCursor.Proofs.Session.BlankRuns
import TextCursor.Proofs.Session.Loop
import TextCursor.Proofs.Session.Numbers

/-!
# Reading lists of integers

Integers with blanks between them are read off a view by a loop that takes one integer and the
blanks behind it in every round (`Session.integers_read_back`). What is left of the view is told by
its text and its end (`Session.ShowsUpTo`). A skip leaves what stands behind a run of blanks, and a
read what stands behind a numeral, since nothing there clings to what stands in front of it; the
loop is an induction on the integers that are still to come.
-/

namespace TextCursor

open Unicode

/-- An integer of a list as it is written, with the blanks behind it. -/
structure ListedInt where
  value : Int
  numeral : Text
  gap : Text
  writes : Numeral.Writes numeral value
  blank : ∀ c ∈ gap, isBlank c

namespace ListedInt

/-- The text of integers one after the other, each with the blanks behind it. -/
def render (entries : List ListedInt) : Text :=
  entries.flatMap fun entry => entry.numeral ++ entry.gap

/-- There are blanks between neighbours: only the last integer may have none behind it. -/
def Separated (entries : List ListedInt) : Prop :=
  ∀ entry ∈ entries.dropLast, entry.gap ≠ []

variable {entry : ListedInt} {later : List ListedInt}

/-- Behind the first of separated integers, the others are separated. -/
theorem Separated.tail (h : Separated (entry :: later)) : Separated later := by
  intro other hother
  cases later with
  | nil => cases hother
  | cons next more => exact h other (List.mem_cons_of_mem _ hother)

/-- A list of integers begins with no blank and with nothing that clings. -/
theorem head?_render (entries : List ListedInt) :
    ∀ c ∈ (render entries).head?, isBlank c = false ∧ (BreakClass.ofChar c).clings = false := by
  cases entries with
  | nil => simp [render]
  | cons entry later =>
      obtain ⟨c, more, hnumeral, hc⟩ := entry.writes.isNumeral.exists_cons
      intro d hd
      rw [render, List.flatMap_cons, hnumeral] at hd
      cases hd
      exact hc

/-- What stands behind an integer is nothing or begins with a blank, which is no digit and does not
cling to the last one. -/
theorem Separated.head?_behind (h : Separated (entry :: later)) :
    ∀ c ∈ (entry.gap ++ render later).head?,
      c.isDigit = false ∧ (BreakClass.ofChar c).clings = false := by
  have hblank : ∀ c ∈ (entry.gap ++ render later).head?, isBlank c := by
    intro c hc
    cases hgap : entry.gap with
    | nil =>
        cases later with
        | nil => simp [hgap, render] at hc
        | cons next more => exact absurd hgap (h entry List.mem_cons_self)
    | cons b others =>
        rw [hgap] at hc
        cases hc
        exact entry.blank c (hgap ▸ List.mem_cons_self)
  intro c hc
  refine ⟨?_, (Segmenter.loose_of_isBlank (hblank c hc)).not_clings⟩
  by_contra hdigit
  have hnot := Numeral.isBlank_digit (Bool.of_not_eq_false hdigit)
  rw [hblank c hc] at hnot
  cases hnot

end ListedInt

/-- The leading blank clusters are those of a run of blanks in front of what is not blank and does
not cling to the last one. -/
theorem Segmenter.takeWhile_isBlank_run {segmenter : Segmenter}
    (hsegmenter : segmenter = .graphemes ∨ segmenter = .codePoints) {run back : Text}
    (hrun : ∀ c ∈ run, isBlank c)
    (hback : ∀ c ∈ back.head?, isBlank c = false ∧ (BreakClass.ofChar c).clings = false) :
    (segmenter.clusters (run ++ back)).takeWhile Cluster.isBlank = segmenter.clusters run := by
  rcases hsegmenter with rfl | rfl
  · have hreleased : released run back = run := by
      unfold released
      rw [if_neg]
      rintro ⟨-, -, -, c, hc, hmark⟩
      rw [(hback c hc).2] at hmark
      cases hmark
    rw [takeWhile_isBlank_clusters hrun fun c hc => (hback c hc).1, hreleased]
  · have hblank := isBlank_of_mem_clusters codePoints hrun
    rw [clusters_codePoints] at hblank
    rw [clusters_codePoints, clusters_codePoints, List.map_append,
      List.takeWhile_append_of_pos hblank]
    cases back with
    | nil => exact List.append_nil _
    | cons c later =>
        have hstop : ¬ Cluster.isBlank [c] :=
          Cluster.not_isBlank_of_mem List.mem_cons_self (hback c rfl).1
        rw [List.map_cons, List.takeWhile_cons_of_neg hstop, List.append_nil]

namespace Session

/-- The view under the handle is valid, shows this text, and ends where it is said to. -/
def ShowsUpTo (s : Session) (handle : Nat) (source : Text) (stop : Nat) (text : Text) : Prop :=
  ∃ view, s.views[handle]? = some view ∧ view.Valid ∧ view.text = text ∧
    view.window.source = source ∧ view.window.stop = stop

variable {s : Session} {handle stop : Nat} {source run back numeral rest : Text} {n : Int}

/-- A view that has been moved behind the front of its text ends where it did. -/
theorem showsUpTo_drop {view left : View} (hvalid : view.Valid) (htext : view.text = run ++ back)
    (hleft : s.views[handle]? = some left) (hleftValid : left.Valid)
    (hwindow : left.window = view.window.drop run.length) :
    s.ShowsUpTo handle view.window.source view.window.stop back := by
  refine ⟨left, hleft, hleftValid, ?_, ?_, ?_⟩
  · rw [View.text, hwindow]
    exact (hvalid.drop htext).2
  · rw [hwindow]
    rfl
  · rw [hwindow, Window.stop_drop _ (hvalid.length_le htext)]

/-- Nothing is shown at the end only. -/
theorem ShowsUpTo.windows_nil (h : s.ShowsUpTo handle source stop []) :
    s.windows[handle]? = some ⟨source, stop, 0⟩ := by
  obtain ⟨⟨⟨viewSource, start, size⟩, memo⟩, hview, hvalid, htext, rfl, rfl⟩ := h
  obtain rfl : size = 0 := hvalid.fits.length_text.symm.trans (congrArg List.length htext)
  rw [windows_getElem?, hview]
  rfl

/-- A view that shows something is not empty. -/
theorem ShowsUpTo.exists_window (h : s.ShowsUpTo handle source stop rest) (hrest : rest ≠ []) :
    ∃ w, s.windows[handle]? = some w ∧ 0 < w.size := by
  obtain ⟨view, hview, hvalid, rfl, -, -⟩ := h
  refine ⟨view.window, by rw [windows_getElem?, hview, Option.map_some], ?_⟩
  rw [← hvalid.fits.length_text]
  exact List.length_pos_iff.2 hrest

/-- A chop of blanks leaves what stands behind a run of them. -/
theorem ShowsUpTo.skip (h : s.ShowsUpTo handle source stop (run ++ back))
    (hsegmenter : s.segmenter = .graphemes ∨ s.segmenter = .codePoints)
    (hrun : ∀ c ∈ run, isBlank c)
    (hback : ∀ c ∈ back.head?, isBlank c = false ∧ (BreakClass.ofChar c).clings = false) :
    (∃ made, (s.step (.chop handle (.while Cluster.isBlank))).result = .ok made) ∧
      (s.step (.chop handle (.while Cluster.isBlank))).state.ShowsUpTo handle source stop back := by
  obtain ⟨view, hview, hvalid, htext, rfl, rfl⟩ := h
  have hcut : ∀ other : View, other.window = view.window →
      s.cutOf? other (s.segmenter.clusters view.text) (.while Cluster.isBlank) =
        some (view.window.chopWhile (s.segmenter.clusters view.text) Cluster.isBlank) := by
    intro other hother
    rw [cutOf?, hother]
  have hrest : (view.window.chopWhile (s.segmenter.clusters view.text) Cluster.isBlank).rest =
      view.window.drop run.length := by
    rw [Window.chopWhile, htext, Segmenter.takeWhile_isBlank_run hsegmenter hrun hback, extent,
      Segmenter.flatten_clusters]
    rfl
  have hclusters := (hvalid.drop htext).1.hasClusters s.segmenter
  rw [View.move, ← hrest] at hclusters
  obtain ⟨htakes, left, hleft, hleftValid, hwindow, -⟩ :=
    (holds_of_valid hview hvalid).chop hcut hclusters
  exact ⟨⟨_, htakes.result⟩, showsUpTo_drop hvalid htext hleft hleftValid (hwindow.trans hrest)⟩

/-- A chop of an integer answers the one that is written in front, and leaves what stands behind
it. -/
theorem ShowsUpTo.read (h : s.ShowsUpTo handle source stop (numeral ++ rest))
    (hsegmenter : s.segmenter = .graphemes ∨ s.segmenter = .codePoints)
    (hwrites : Numeral.Writes numeral n)
    (hrest : ∀ c ∈ rest.head?, c.isDigit = false ∧ (BreakClass.ofChar c).clings = false) :
    (s.step (.chop handle (.number .whole none))).result = .ok (.found (.value (.int n))) ∧
      (s.step (.chop handle (.number .whole none))).state.ShowsUpTo handle source stop rest := by
  obtain ⟨view, hview, hvalid, htext, rfl, rfl⟩ := h
  have hscan : Numeral.scan .whole (s.segmenter.clusters view.text) = some numeral := by
    rw [htext]
    exact hwrites.isNumeral.scan_append hsegmenter (fun c hc => (hrest c hc).1)
      fun c hc => (hrest c hc).2
  have hread : view.window.readNumber (s.segmenter.clusters view.text) .whole =
      .ok (some ⟨.int n, view.window.drop numeral.length⟩) := by
    rw [Window.readNumber_of_scan _ hscan, hwrites.read]
    rfl
  -- the step works on the memoized view, and moves it behind the numeral
  have hstep : s.step (.chop handle (.number .whole none)) =
      .done (.found (.value (.int n)))
        ((s.putView handle (view.memoize s.segmenter)).putView handle
          ((view.memoize s.segmenter).move (view.window.drop numeral.length))) := by
    simp only [step, hview, chopView, segmenter_putView, View.chopNumber,
      View.clusters_memoizeIf, hvalid.clusters_eq, View.window_memoizeIf, hread]
    rfl
  have hleft := ((hvalid.memoize s.segmenter).drop htext).1
  rw [hstep]
  refine ⟨rfl, showsUpTo_drop hvalid htext ?_ hleft rfl⟩
  exact getElem?_putView (getElem?_putView hview _) _

/-- The loop reads separated integers to the end of the view. -/
theorem ShowsUpTo.drains {entries : List ListedInt}
    (h : s.ShowsUpTo handle source stop (ListedInt.render entries))
    (hsegmenter : s.segmenter = .graphemes ∨ s.segmenter = .codePoints)
    (hentries : ListedInt.Separated entries) :
    ∃ rounds final, Drains handle
        [.chop handle (.number .whole none), .chop handle (.while Cluster.isBlank)] s rounds final ∧
      rounds.map List.head? = entries.map (fun entry => some (.found (.value (.int entry.value)))) ∧
      final.windows[handle]? = some ⟨source, stop, 0⟩ := by
  induction entries generalizing s with
  | nil => exact ⟨[], s, .done h.windows_nil rfl, rfl, h.windows_nil⟩
  | cons entry later ih =>
      have htext : ListedInt.render (entry :: later) =
          entry.numeral ++ (entry.gap ++ ListedInt.render later) := by
        rw [ListedInt.render, List.flatMap_cons, List.append_assoc]
        rfl
      have hleft : ListedInt.render (entry :: later) ≠ [] := by
        obtain ⟨c, more, hnumeral, -⟩ := entry.writes.isNumeral.exists_cons
        rw [htext, hnumeral]
        exact List.cons_ne_nil _ _
      obtain ⟨w, hwindow, hsize⟩ := h.exists_window hleft
      obtain ⟨hvalue, hread⟩ := (htext ▸ h).read hsegmenter entry.writes hentries.head?_behind
      have hreadSegmenter := segmenter_step_chop s handle (.number .whole none)
      obtain ⟨⟨made, hskipped⟩, hskip⟩ :=
        hread.skip (hreadSegmenter ▸ hsegmenter) entry.blank (ListedInt.head?_render later)
      have hskipSegmenter := segmenter_step_chop
        (s.step (.chop handle (.number .whole none))).state handle (.while Cluster.isBlank)
      obtain ⟨rounds, final, hdrains, hvalues, hend⟩ :=
        ih hskip (by rwa [hskipSegmenter, hreadSegmenter]) hentries.tail
      refine ⟨[.found (.value (.int entry.value)), made] :: rounds, final,
        .round hwindow hsize ?_ hdrains, ?_, hend⟩
      · simp only [run, List.map_cons, hvalue, hskipped]
        rfl
      · rw [List.map_cons, List.map_cons, hvalues]
        rfl

/-- A list of integers is read back. It is written in decimal digits, each integer with a sign or
none and perhaps with zeros in front, and with blanks between neighbours, in front and at the end.
With graphemes or code points for clusters, the leading blanks are skipped, and then the loop that
chops an integer and the blanks behind it ends: every integer is found, the values are those of the
list in order, and the view is left empty at its end. -/
theorem integers_read_back {view : View} (hview : s.views[handle]? = some view)
    (hvalid : view.Valid) (hsegmenter : s.segmenter = .graphemes ∨ s.segmenter = .codePoints)
    {lead : Text} (hlead : ∀ c ∈ lead, isBlank c) {entries : List ListedInt}
    (hentries : ListedInt.Separated entries)
    (htext : view.text = lead ++ ListedInt.render entries) :
    let read := Step.chop handle (.number .whole none)
    let skip := Step.chop handle (.while Cluster.isBlank)
    (∃ made, (s.step skip).result = .ok made) ∧
      ∃ rounds final, Drains handle [read, skip] (s.step skip).state rounds final ∧
        rounds.map List.head? =
          entries.map (fun entry => some (.found (.value (.int entry.value)))) ∧
        final.windows[handle]? = some ⟨view.window.source, view.window.stop, 0⟩ := by
  intro read skip
  have hshows : s.ShowsUpTo handle view.window.source view.window.stop
      (lead ++ ListedInt.render entries) := ⟨view, hview, hvalid, htext, rfl, rfl⟩
  obtain ⟨hskipped, hleft⟩ := hshows.skip hsegmenter hlead (ListedInt.head?_render entries)
  exact ⟨hskipped, hleft.drains (by rwa [segmenter_step_chop]) hentries⟩

/-- A plus and a zero in front of a seven, a negative number and a zero without a blank behind it,
with line ends among the blanks, in the middle of a text. -/
theorem integers_read_back_signs_and_line_ends :
    let source : Text := ['(', ' ', '\r', '\n', '+', '0', '7', '\r', '\n', '\t', '-', '1', '2',
      '\u3000', '0', ')']
    let view := View.ofWindow ⟨source, 1, 14⟩
    let s : Session := { settings := {}, views := [view] }
    let read := Step.chop 0 (.number .whole none)
    let skip := Step.chop 0 (.while Cluster.isBlank)
    s.views[0]? = some view ∧ view.Valid ∧ s.segmenter = .graphemes ∧
      (∀ c ∈ [' ', '\r', '\n'], isBlank c) ∧
      ∃ entries, ListedInt.Separated entries ∧
        view.text = [' ', '\r', '\n'] ++ ListedInt.render entries ∧
        ∃ rounds final, Drains 0 [read, skip] (s.step skip).state rounds final ∧
          rounds.map List.head? = [some (.found (.value (.int 7))),
            some (.found (.value (.int (-12)))), some (.found (.value (.int 0)))] ∧
          final.windows[0]? = some ⟨source, 15, 0⟩ := by
  intro source view s read skip
  have hvalid : view.Valid := View.valid_ofWindow (by decide)
  have hseven : Numeral.Writes (['+'] ++ (List.replicate 1 '0' ++ Text.ofNat 7)) 7 :=
    Numeral.writes_padded (n := 7) (.inr ⟨.inr rfl, by decide⟩) (by decide)
  have htwelve : Numeral.Writes (['-'] ++ (List.replicate 0 '0' ++ Text.ofNat 12)) (-12) :=
    Numeral.writes_padded (n := -12) (.inl ⟨rfl, by decide⟩) (by decide)
  have hzero : Numeral.Writes ([] ++ (List.replicate 0 '0' ++ Text.ofNat 0)) 0 :=
    Numeral.writes_padded (n := 0) (.inr ⟨.inl rfl, by decide⟩) (by decide)
  let entries : List ListedInt :=
    [⟨7, _, ['\r', '\n', '\t'], hseven, List.all_eq_true.1 (by decide)⟩,
      ⟨-12, _, ['\u3000'], htwelve, List.all_eq_true.1 (by decide)⟩,
      ⟨0, _, [], hzero, List.all_eq_true.1 (by decide)⟩]
  have hentries : ListedInt.Separated entries := by
    intro entry hentry
    rcases List.mem_pair.1 hentry with rfl | rfl <;> exact List.cons_ne_nil _ _
  have hlead : ∀ c ∈ [' ', '\r', '\n'], isBlank c := List.all_eq_true.1 (by decide)
  have htext : view.text = [' ', '\r', '\n'] ++ ListedInt.render entries := rfl
  obtain ⟨-, rounds, final, hdrains, hvalues, hend⟩ :=
    integers_read_back (show s.views[0]? = some view from rfl) hvalid (.inl rfl) hlead hentries
      htext
  exact ⟨rfl, hvalid, rfl, hlead, entries, hentries, htext, rounds, final, hdrains, hvalues, hend⟩

end Session

end TextCursor
