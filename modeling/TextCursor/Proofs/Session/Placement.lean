import TextCursor.Proofs.Session.Windows
import TextCursor.Proofs.Window.Placement

/-!
# A session sees nothing outside its window

A session that begins with a window in the middle of a source and a session that begins with the
text of that window as a source of its own go through the same steps in the same way. Placing the
views, answers and notices of the second one in the window gives those of the first one
(`Session.step_placedIn`, `Session.run_sees_only_window`). Left out are the three kinds of steps
that ask for the source or speak of its offsets.
-/

namespace TextCursor

/-- The view placed in a window, with its memo. -/
def View.placedIn (v : View) (outer : Window) : View where
  window := v.window.placedIn outer
  memo := v.memo.map fun memo => { memo with start := outer.start + memo.start }

/-- The notice about the same event of a placed view. -/
def Notice.placedIn (outer : Window) : Notice → Notice
  | .refused chopper window => .refused chopper (window.placedIn outer)
  | .switched previous current => .switched previous current
  | .extractorBuilt literals choppers => .extractorBuilt literals choppers
  | .applied configuration => .applied configuration

/-- The log records the notice of a placed view where it records that of the view. -/
theorem Settings.note_placedIn (s : Settings) (notice : Notice) (outer : Window) :
    (s.note notice).map (Notice.placedIn outer) = s.note (notice.placedIn outer) := by
  unfold note
  split <;> rfl

namespace View

variable {v : View} {outer : Window}

/-- A valid view of the text of a window shows, placed in that window, the same text. -/
theorem Valid.text_placedIn (hv : v.Valid) (hsource : v.window.source = outer.text) :
    (v.placedIn outer).text = v.text :=
  Window.text_placedIn hsource hv.fits

/-- A placed view has the same clusters, and its memo fits where the memo of the view does. -/
theorem Valid.clusters_placedIn (hv : v.Valid) (hsource : v.window.source = outer.text)
    (segmenter : Segmenter) :
    (v.placedIn outer).clusters segmenter = v.clusters segmenter := by
  have htext := hv.text_placedIn hsource
  cases hmemo : v.memo with
  | none =>
      have hnone : (v.placedIn outer).memo = none := by rw [placedIn, hmemo, Option.map_none]
      simp only [clusters, hmemo, hnone, htext]
  | some memo =>
      have hsome : (v.placedIn outer).memo =
          some { memo with start := outer.start + memo.start } := by
        rw [placedIn, hmemo, Option.map_some]
      have hkey : (v.placedIn outer).Remembers segmenter
          { memo with start := outer.start + memo.start } ↔ v.Remembers segmenter memo := by
        simp only [Remembers, placedIn, Window.placedIn, Nat.add_left_cancel_iff]
      simp only [clusters, hmemo, hsome, hkey, htext]

/-- Memoizing commutes with placing. -/
theorem Valid.memoize_placedIn (hv : v.Valid) (hsource : v.window.source = outer.text)
    (segmenter : Segmenter) :
    (v.placedIn outer).memoize segmenter = (v.memoize segmenter).placedIn outer := by
  rw [View.memoize, hv.clusters_placedIn hsource]
  rfl

/-- Memoizing where clusters are needed commutes with placing. -/
theorem Valid.memoizeIf_placedIn (hv : v.Valid) (hsource : v.window.source = outer.text)
    (needed : Bool) (segmenter : Segmenter) :
    (v.placedIn outer).memoizeIf needed segmenter =
      (v.memoizeIf needed segmenter).placedIn outer := by
  cases needed with
  | false => rfl
  | true => exact hv.memoize_placedIn hsource segmenter

/-- Peeking at a number does not depend on placing. -/
theorem Valid.peekNumber_placedIn (hv : v.Valid) (hsource : v.window.source = outer.text)
    (segmenter : Segmenter) (kind : NumberKind) :
    (v.placedIn outer).peekNumber segmenter kind = v.peekNumber segmenter kind := by
  rw [View.peekNumber, View.peekNumber, hv.clusters_placedIn hsource, Window.readNumber,
    Window.readNumber]
  cases Numeral.scan kind (v.clusters segmenter) with
  | none => rfl
  | some numeral =>
      simp only
      cases Numeral.read kind numeral <;> rfl

/-- Chopping a number commutes with placing. -/
theorem Valid.chopNumber_placedIn (hv : v.Valid) (hsource : v.window.source = outer.text)
    (segmenter : Segmenter) (kind : NumberKind) :
    (v.placedIn outer).chopNumber segmenter kind =
      (v.chopNumber segmenter kind).map
        (·.map (Prod.map id (fun behind => behind.placedIn outer))) := by
  rw [View.chopNumber, View.chopNumber, hv.clusters_placedIn hsource, Window.readNumber,
    Window.readNumber]
  cases Numeral.scan kind (v.clusters segmenter) with
  | none => rfl
  | some numeral =>
      have hdrop : (v.placedIn outer).window.drop numeral.length =
          (v.window.drop numeral.length).placedIn outer := Window.drop_placedIn _ _ _
      simp only [hdrop]
      cases Numeral.read kind numeral <;> rfl

end View

/-- What a chopper comes to on a placed view. -/
def Outcome.placedIn {ε α : Type} (outer : Window) (o : Outcome View ε α) : Outcome View ε α :=
  ⟨o.result, o.state.placedIn outer, o.notices.map (Notice.placedIn outer)⟩

namespace Chopper

variable {ε α : Type}

/-- The chopper does on a placed view what it does on the view. -/
def SeesOnlyWindow (chopper : Chopper ε α) : Prop :=
  ∀ (settings : Settings) (view : View) (outer : Window), view.Valid →
    view.window.source = outer.text →
    chopper settings (view.placedIn outer) = (chopper settings view).placedIn outer

/-- A chopper of numbers sees only the window. -/
theorem number_seesOnlyWindow (name : Text) (kind : NumberKind) :
    (number name kind).SeesOnlyWindow := by
  intro settings view outer hvalid hsource
  have hchop := (hvalid.memoize settings.segmenter).chopNumber_placedIn hsource
    settings.segmenter kind
  simp only [number, hvalid.memoize_placedIn hsource, hchop, hvalid.text_placedIn hsource]
  cases (view.memoize settings.segmenter).chopNumber settings.segmenter kind with
  | error fault => rfl
  | ok number =>
      cases number with
      | some reading => rfl
      | none =>
          simp only [Except.map, Option.map_none, Outcome.placedIn, Settings.note_placedIn]
          rfl

/-- Taking off the text of a part of a placed view is taking off that of the part of the view. -/
theorem removedText_placedIn {view : View} {outer : Window} {cut : Cut}
    (hsource : cut.removed.source = outer.text) (hfits : cut.removed.Fits) :
    (removedText (view.placedIn outer) (cut.placedIn outer) : Outcome View ε Datum) =
      (removedText view cut).placedIn outer := by
  have htext : (cut.placedIn outer).removed.text = cut.removed.text :=
    Window.text_placedIn hsource hfits
  rw [removedText, htext]
  rfl

/-- Taking off leading clusters of a placed view is taking off those of the view. -/
theorem removedText_front_placedIn {view : View} {outer : Window} (hvalid : view.Valid)
    (hsource : view.window.source = outer.text) {segmenter : Segmenter} {front : List Text}
    (hfront : front <+: view.clusters segmenter) :
    (removedText (view.placedIn outer) (.front (view.placedIn outer).window (extent front) 0) :
      Outcome View ε Datum) =
      (removedText view (.front view.window (extent front) 0)).placedIn outer := by
  have hinside := view.window.take_inside ((hvalid.madeOf segmenter).extent_le hfront)
  have hcut : Cut.front (view.placedIn outer).window (extent front) 0 =
      (Cut.front view.window (extent front) 0).placedIn outer := Cut.front_placedIn _ _ _ _
  rw [hcut]
  exact removedText_placedIn (hinside.1.trans hsource) (hinside.fits hvalid.fits)

/-- A chopper of leading clusters sees only the window. -/
theorem leading_seesOnlyWindow (test : Text → Bool) : (leading (ε := ε) test).SeesOnlyWindow := by
  intro settings view outer hvalid hsource
  have hseen := hvalid.memoize settings.segmenter
  simp only [leading, hvalid.memoize_placedIn hsource, hseen.clusters_placedIn hsource]
  exact removedText_front_placedIn hseen hsource (List.takeWhile_prefix test)

/-- The chopper of an optional character sees only the window. -/
theorem optional_seesOnlyWindow : (optional (ε := ε)).SeesOnlyWindow := by
  intro settings view outer hvalid hsource
  have hseen := hvalid.memoize settings.segmenter
  simp only [optional, hvalid.memoize_placedIn hsource, hseen.clusters_placedIn hsource]
  split
  · rfl
  · split
    · rfl
    · exact removedText_front_placedIn hseen hsource (List.take_prefix _ _)

end Chopper

/-- Every built-in chopper sees only the window. -/
theorem Registry.seesOnlyWindow_of_find?_builtin {name : Text} {chopper : Chopper ChopFault Datum}
    (h : builtin.find? name = some chopper) : chopper.SeesOnlyWindow := by
  rcases eq_of_find?_builtin h with rfl | rfl | rfl | rfl
  · exact Chopper.number_seesOnlyWindow _ _
  · exact Chopper.number_seesOnlyWindow _ _
  · exact Chopper.leading_seesOnlyWindow _
  · exact Chopper.optional_seesOnlyWindow

/-- The answer with the view that it tells of placed in a window. -/
def Answer.placedIn (outer : Window) : Answer → Answer
  | .value datum => .value datum
  | .view handle window => .view handle (window.placedIn outer)
  | .found answer => .found (answer.placedIn outer)
  | .notFound => .notFound

/-- An answer that tells of no view does not depend on placing. -/
theorem Answer.placedIn_eq_self {answer : Answer} {outer : Window} (h : answer.made? = none) :
    answer.placedIn outer = answer := by
  induction answer with
  | value | notFound => rfl
  | view => cases h
  | found inner ih => rw [placedIn, ih h]

/-- The step asks for nothing that lies outside the view and gives no bounds for a new one. -/
def Step.StaysInside : Step → Prop
  | .query _ .source | .query _ .description | .derive _ (.parts _ _) => False
  | _ => True

/-- A step that gives no bounds keeps within the source. -/
theorem Step.StaysInside.withinContract {step : Step} {source : Text} (h : step.StaysInside) :
    step.WithinContract source := by
  cases step with
  | derive handle derivation =>
      cases derivation with
      | parts => cases h
      | copy | narrow | slice | trimStart | trimEnd | trim | takeWhile | takeLastWhile => trivial
  | query | chop | iterate | next | selectSegmenter => trivial

/-- What a step answers about placed views, if this is what it answers about the views. A question
for the start of a view is one for an offset, which is counted from the start of the source. -/
def Step.placeAnswer (outer : Window) : Step → Answer → Answer
  | .query _ .start, .value (.int n) => .value (.int (outer.start + n))
  | _, answer => answer.placedIn outer

namespace Session

/-- The session with its views placed in a window. -/
def placedIn (s : Session) (outer : Window) : Session :=
  { s with views := s.views.map (·.placedIn outer) }

/-- What a step comes to for placed views, if this is what it comes to for the views. -/
def placeReply (outer : Window) (place : Answer → Answer) (reply : Reply) : Reply :=
  ⟨reply.result.map place, reply.state.placedIn outer, reply.notices.map (Notice.placedIn outer)⟩

variable {s : Session} {handle : Nat} {view : View} {outer : Window}

/-- A session that begins with a placed window. -/
theorem start_placedIn (settings : Settings) (w outer : Window) :
    (start settings w).placedIn outer = start settings (w.placedIn outer) := rfl

/-- A step that has been done, for placed views. -/
theorem placeReply_done (outer : Window) (place : Answer → Answer) (answer : Answer) (s : Session) :
    placeReply outer place (.done answer s) = .done (place answer) (s.placedIn outer) := rfl

/-- The segmenter in force does not depend on placing. -/
theorem segmenter_placedIn (s : Session) (outer : Window) :
    (s.placedIn outer).segmenter = s.segmenter := rfl

/-- The view under a handle of a placed session. -/
theorem getElem?_placedIn (s : Session) (outer : Window) (handle : Nat) :
    (s.placedIn outer).views[handle]? = s.views[handle]?.map (·.placedIn outer) :=
  List.getElem?_map

/-- Putting a view in the place of another one commutes with placing. -/
theorem putView_placedIn (s : Session) (handle : Nat) (view : View) (outer : Window) :
    (s.placedIn outer).putView handle (view.placedIn outer) =
      (s.putView handle view).placedIn outer := by
  simp only [placedIn, putView, List.map_set]

/-- Adding a view commutes with placing. -/
theorem addView_placedIn (s : Session) (w outer : Window) :
    (s.placedIn outer).addView (w.placedIn outer) =
      ((s.addView w).1.placedIn outer, (s.addView w).2.placedIn outer) := by
  simp only [placedIn, addView, List.length_map, List.map_append, Answer.placedIn]
  rfl

/-- Following a cut commutes with placing. -/
theorem followCut_placedIn (s : Session) (handle : Nat) (view : View) (cut : Cut)
    (outer : Window) :
    (s.placedIn outer).followCut handle (view.placedIn outer) (cut.placedIn outer) =
      ((s.followCut handle view cut).1.placedIn outer,
        (s.followCut handle view cut).2.placedIn outer) := by
  have hfollow : (view.placedIn outer).follow (cut.placedIn outer) =
      (view.follow cut).placedIn outer := rfl
  rw [followCut, hfollow, putView_placedIn]
  exact addView_placedIn _ _ _

/-- Memoizing a view where its clusters are needed commutes with placing. -/
theorem memoizedIf_placedIn (hs : s.Valid outer.text) (hview : s.views[handle]? = some view)
    (needed : Bool) :
    (s.placedIn outer).memoizedIf needed handle = (s.memoizedIf needed handle).placedIn outer := by
  obtain ⟨hsource, hvalid⟩ := hs.of_handle hview
  have hplaced : (s.placedIn outer).views[handle]? = some (view.placedIn outer) := by
    rw [getElem?_placedIn, hview, Option.map_some]
  rw [memoizedIf_eq_putView hplaced, memoizedIf_eq_putView hview, segmenter_placedIn,
    hvalid.memoizeIf_placedIn hsource, putView_placedIn]

/-- The text of an operand does not depend on placing. -/
theorem operandText?_placedIn (hs : s.Valid outer.text) (operand : Operand) :
    (s.placedIn outer).operandText? operand = s.operandText? operand := by
  cases operand with
  | text text => rfl
  | view other =>
      simp only [operandText?, getElem?_placedIn]
      cases hview : s.views[other]? with
      | none => rfl
      | some view =>
          obtain ⟨hsource, hvalid⟩ := hs.of_handle hview
          simp only [Option.map_some, hvalid.text_placedIn hsource]

/-- The answer for a number does not depend on placing. -/
theorem numberAnswer_placedIn (number fallback : Option Datum) (outer : Window) :
    (numberAnswer number fallback).placedIn outer = numberAnswer number fallback :=
  Answer.placedIn_eq_self (made?_numberAnswer number fallback)

/-- A question about a placed view, other than one for its source or its place there. -/
theorem answerQuery_placedIn (hs : s.Valid outer.text) (hvalid : view.Valid)
    (hsource : view.window.source = outer.text) (clusters : List Text) {query : Query}
    (hquery : (Step.query handle query).StaysInside) :
    (s.placedIn outer).answerQuery (view.placedIn outer) clusters query =
      placeReply outer ((Step.query handle query).placeAnswer outer)
        (s.answerQuery view clusters query) := by
  have htext := hvalid.text_placedIn hsource
  cases query with
  | source | description => cases hquery
  | start => rfl
  | size | clusterCount | isNonempty | clusters | hasCluster | clusterAt => rfl
  | text =>
      simp only [answerQuery, htext]
      rfl
  | indexOf operand | equals operand | equalsIgnoringCase operand | startsWith operand
  | endsWith operand =>
      simp only [answerQuery, withOperand, operandText?_placedIn hs, htext]
      cases s.operandText? operand <;> rfl
  | isValue value | isNotValue value =>
      cases value with
      | none => rfl
      | some operand =>
          simp only [answerQuery, withOperand, operandText?_placedIn hs, htext]
          cases s.operandText? operand <;> rfl
  | item index =>
      simp only [answerQuery]
      cases Window.item? clusters index <;> rfl
  | peekNumber kind fallback =>
      simp only [answerQuery, segmenter_placedIn, hvalid.peekNumber_placedIn hsource]
      cases view.peekNumber s.segmenter kind with
      | error fault => rfl
      | ok number =>
          show Outcome.done (numberAnswer number fallback) (s.placedIn outer) =
            Outcome.done ((numberAnswer number fallback).placedIn outer) (s.placedIn outer)
          rw [numberAnswer_placedIn]

/-- Making a window from a placed one, other than from bounds. -/
theorem deriveWindow_placedIn {w : Window} (htext : (w.placedIn outer).text = w.text)
    (segmenter : Segmenter) (clusters : List Text) {derivation : Derivation}
    (hinside : (Step.derive handle derivation).StaysInside) :
    deriveWindow segmenter (w.placedIn outer) clusters derivation =
      (deriveWindow segmenter w clusters derivation).map (·.placedIn outer) := by
  cases derivation with
  | parts => cases hinside
  | copy => rfl
  | narrow start size => simp only [deriveWindow, Window.narrow_placedIn, Except.map]
  | slice first last stepped =>
      cases stepped with
      | true => rfl
      | false => simp only [deriveWindow, Window.slice_placedIn, Except.map]
  | trim => simp only [deriveWindow, Window.trim_placedIn htext, Except.map]
  | trimStart | takeLastWhile =>
      simp only [deriveWindow, Window.trimStart, Window.dropWhile, Window.chopLastWhile, Cut.back,
        Window.drop_placedIn, Except.map]
  | trimEnd | takeWhile => rfl

/-- The cut that a chop makes of a placed view. -/
theorem cutOf?_placedIn (hs : s.Valid outer.text) (hvalid : view.Valid)
    (hsource : view.window.source = outer.text) (clusters : List Text) (chop : Chop) :
    (s.placedIn outer).cutOf? (view.placedIn outer) clusters chop =
      (s.cutOf? view clusters chop).map (·.placedIn outer) := by
  have hwindow : (view.placedIn outer).window = view.window.placedIn outer := rfl
  have htext : (view.window.placedIn outer).text = view.window.text :=
    hvalid.text_placedIn hsource
  cases chop with
  | number | chopper => rfl
  | first | «while» =>
      simp only [cutOf?, hwindow, Window.chopFirst, Window.chopWhile, Cut.front_placedIn,
        Option.map_some]
  | last | lastWhile =>
      simp only [cutOf?, hwindow, Window.chopLast_placedIn, Window.chopLastWhile,
        Cut.back_placedIn, Option.map_some]
  | through delimiter =>
      simp only [cutOf?, hwindow, segmenter_placedIn, Window.chopThrough?_placedIn,
        Window.chopAll_placedIn, Option.map_some]
      cases view.window.chopThrough? clusters (s.segmenter.clusters delimiter).length delimiter <;>
        rfl
  | tryThrough delimiter =>
      simp only [cutOf?, hwindow, segmenter_placedIn, Window.chopThrough?_placedIn]
  | throughText operand =>
      simp only [cutOf?, hwindow, operandText?_placedIn hs]
      cases s.operandText? operand with
      | none => rfl
      | some needle => exact congrArg some (Window.chopThroughText_placedIn htext needle)

/-- What a chopped number takes off a placed view. -/
theorem chopView_number_placedIn (hvalid : view.Valid) (hsource : view.window.source = outer.text)
    (clusters : List Text) (kind : NumberKind) (fallback : Option Datum) :
    (s.placedIn outer).chopView handle (view.placedIn outer) clusters (.number kind fallback) =
      placeReply outer (Answer.placedIn outer)
        (s.chopView handle view clusters (.number kind fallback)) := by
  simp only [chopView, segmenter_placedIn, hvalid.chopNumber_placedIn hsource]
  cases view.chopNumber s.segmenter kind with
  | error fault => rfl
  | ok number =>
      cases number with
      | none =>
          show Outcome.done (numberAnswer none fallback) (s.placedIn outer) =
            Outcome.done ((numberAnswer none fallback).placedIn outer) (s.placedIn outer)
          rw [numberAnswer_placedIn]
      | some reading =>
          obtain ⟨value, behind⟩ := reading
          show Outcome.done (numberAnswer (some value) fallback)
              ((s.placedIn outer).putView handle (behind.placedIn outer)) =
            Outcome.done ((numberAnswer (some value) fallback).placedIn outer)
              ((s.putView handle behind).placedIn outer)
          rw [numberAnswer_placedIn, putView_placedIn]

/-- What a built-in chopper takes off a placed view. -/
theorem chopView_chopper_placedIn (hvalid : view.Valid) (hsource : view.window.source = outer.text)
    (clusters : List Text) (name : Text) :
    (s.placedIn outer).chopView handle (view.placedIn outer) clusters (.chopper name) =
      placeReply outer (Answer.placedIn outer)
        (s.chopView handle view clusters (.chopper name)) := by
  simp only [chopView]
  cases hfind : Registry.builtin.find? name with
  | none => rfl
  | some chopper =>
      have hsees := Registry.seesOnlyWindow_of_find?_builtin hfind
      have hsame := hsees s.settings view outer hvalid hsource
      have hsettings : (s.placedIn outer).settings = s.settings := rfl
      simp only [hsettings, hsame, Outcome.onState, Outcome.map, Outcome.mapError,
        Outcome.placedIn, putView_placedIn, placeReply]
      cases (chopper s.settings view).result <;> rfl

/-- What a chop takes off a placed view. -/
theorem chopView_placedIn (hs : s.Valid outer.text) (hvalid : view.Valid)
    (hsource : view.window.source = outer.text) (clusters : List Text) (chop : Chop) :
    (s.placedIn outer).chopView handle (view.placedIn outer) clusters chop =
      placeReply outer (Answer.placedIn outer) (s.chopView handle view clusters chop) := by
  have hcuts := cutOf?_placedIn hs hvalid hsource clusters chop
  cases hcut : s.cutOf? view clusters chop with
  | some cut =>
      rw [hcut, Option.map_some] at hcuts
      rw [chopView_of_cut handle hcut, chopView_of_cut handle hcuts, followCut_placedIn,
        placeReply_done]
      cases chop <;> rfl
  | none =>
      rw [hcut, Option.map_none] at hcuts
      rcases chopView_of_no_cut chop with ⟨result, hnone, hmissed⟩ | ⟨kind, fallback, rfl⟩ |
        ⟨name, rfl⟩
      · rw [hmissed _ _ _ _ hcut, hmissed _ _ _ _ hcuts]
        cases result with
        | error error => rfl
        | ok answer =>
            show Outcome.done answer _ = Outcome.done (answer.placedIn outer) _
            rw [Answer.placedIn_eq_self (hnone answer rfl)]
      · exact chopView_number_placedIn hvalid hsource clusters kind fallback
      · exact chopView_chopper_placedIn hvalid hsource clusters name

/-- What an iterator answers does not depend on placing. -/
theorem nextCluster_placedIn (s : Session) (iterator : Nat) (rest : List Text) (outer : Window) :
    (s.placedIn outer).nextCluster iterator rest =
      placeReply outer (Answer.placedIn outer) (s.nextCluster iterator rest) := by
  cases rest <;> rfl

/-- A step of a placed session is the step of the session, placed. -/
theorem step_placedIn (hs : s.Valid outer.text) {step : Step} (hstep : step.StaysInside) :
    (s.placedIn outer).step step = placeReply outer (step.placeAnswer outer) (s.step step) := by
  cases step with
  | query handle query =>
      simp only [Session.step, getElem?_placedIn, segmenter_placedIn]
      cases hview : s.views[handle]? with
      | none => rfl
      | some view =>
          obtain ⟨hsource, hvalid⟩ := hs.of_handle hview
          have hseen := (Evolves.memoizedIf hs hview query.needsClusters).valid
          simp only [Option.map_some, hvalid.clusters_placedIn hsource,
            memoizedIf_placedIn hs hview]
          exact answerQuery_placedIn hseen hvalid hsource _ hstep
  | derive handle derivation =>
      simp only [Session.step, getElem?_placedIn, segmenter_placedIn]
      cases hview : s.views[handle]? with
      | none => rfl
      | some view =>
          obtain ⟨hsource, hvalid⟩ := hs.of_handle hview
          have hwindow : (view.placedIn outer).window = view.window.placedIn outer := rfl
          have htext : (view.window.placedIn outer).text = view.window.text :=
            hvalid.text_placedIn hsource
          simp only [Option.map_some, hvalid.clusters_placedIn hsource,
            memoizedIf_placedIn hs hview, hwindow,
            deriveWindow_placedIn htext s.segmenter _ hstep]
          cases deriveWindow s.segmenter view.window (view.clusters s.segmenter) derivation with
          | error error => rfl
          | ok w =>
              simp only [Except.map, addView_placedIn]
              rfl
  | chop handle chop =>
      simp only [Session.step, getElem?_placedIn, segmenter_placedIn]
      cases hview : s.views[handle]? with
      | none => rfl
      | some view =>
          obtain ⟨hsource, hvalid⟩ := hs.of_handle hview
          simp only [Option.map_some, hvalid.clusters_placedIn hsource,
            hvalid.memoizeIf_placedIn hsource, putView_placedIn]
          -- the chop works on the view that may have been memoized, whose window is the same
          have hseen := hvalid.memoizeIf (chop.needsClusters s.segmenter) s.segmenter
          have hwindow := view.window_memoizeIf (chop.needsClusters s.segmenter) s.segmenter
          generalize view.memoizeIf (chop.needsClusters s.segmenter) s.segmenter = seen
            at hseen hwindow
          rw [← hwindow] at hsource
          have hinside : seen.window.Inside view.window := hwindow ▸ .refl _
          have hput := (Evolves.putView hs hview hseen hinside).valid
          exact chopView_placedIn hput hseen hsource _ chop
  | iterate handle => rfl
  | next iterator =>
      have hiterators : (s.placedIn outer).iterators = s.iterators := rfl
      simp only [Session.step, hiterators, getElem?_placedIn, segmenter_placedIn]
      cases s.iterators[iterator]? with
      | none => rfl
      | some found =>
          cases found with
          | running rest => exact nextCluster_placedIn s iterator rest outer
          | waiting origin =>
              simp only
              cases hview : s.views[origin]? with
              | none => rfl
              | some view =>
                  obtain ⟨hsource, hvalid⟩ := hs.of_handle hview
                  simp only [Option.map_some, hvalid.clusters_placedIn hsource,
                    memoizedIf_placedIn hs hview]
                  exact nextCluster_placedIn _ iterator _ outer
  | selectSegmenter choice =>
      simp only [Session.step, Settings.selectSegmenter]
      cases choice.resolve with
      | error fault => rfl
      | ok chosen =>
          simp only [placeReply, Outcome.onState, Outcome.map, Outcome.mapError,
            Settings.note_placedIn]
          rfl

/-- A run of a placed session is the run of the session, with each reply placed. -/
theorem run_placedIn (hs : s.Valid outer.text) (steps : List Step)
    (hsteps : ∀ step ∈ steps, step.StaysInside) :
    (s.placedIn outer).run steps =
      List.zipWith (fun step => placeReply outer (step.placeAnswer outer)) steps
        (s.run steps) := by
  -- the session that the first step leaves is valid again, and its placed form is where the placed
  -- run goes on
  induction steps generalizing s with
  | nil => rfl
  | cons first later ih =>
      have hfirst := step_placedIn hs (hsteps first List.mem_cons_self)
      have hvalid := (step_evolves hs (hsteps first List.mem_cons_self).withinContract).valid
      have hlater := ih hvalid fun step hstep => hsteps step (List.mem_cons_of_mem _ hstep)
      rw [run, run, List.zipWith_cons_cons, hfirst, ← hlater]
      rfl

/-- A view that a step makes inside the views of the session lies inside one of them. -/
theorem step_made_inside {source : Text} (hs : s.Valid source) {step : Step}
    (hstep : step.StaysInside) {answer : Answer} {other : Nat} {made : Window}
    (hanswer : (s.step step).result = .ok answer) (hmade : answer.made? = some (other, made)) :
    ∃ view ∈ s.views, made.Inside view.window := by
  cases step with
  | query handle query =>
      cases hview : s.views[handle]? with
      | none => simp [Session.step, hview, Outcome.failed] at hanswer
      | some view =>
          have hcomes := step_query_comesTo hs hview query
          exact ⟨view, List.mem_of_getElem? hview, (hcomes.made _ _ _ hanswer hmade).1⟩
  | derive handle derivation =>
      cases hview : s.views[handle]? with
      | none => simp [Session.step, hview, Outcome.failed] at hanswer
      | some view =>
          have hparts : ∀ start size, derivation ≠ .parts start size := by
            rintro start size rfl
            cases hstep
          have hcomes := step_derive_comesTo hs hview hparts
          exact ⟨view, List.mem_of_getElem? hview, (hcomes.made _ _ _ hanswer hmade).1⟩
  | chop handle chop =>
      cases hview : s.views[handle]? with
      | none => simp [Session.step, hview, Outcome.failed] at hanswer
      | some view =>
          have hcomes := step_chop_comesTo hs hview chop
          exact ⟨view, List.mem_of_getElem? hview, (hcomes.made _ _ _ hanswer hmade).1⟩
  | iterate handle =>
      cases hanswer
      cases hmade
  | next iterator =>
      have hnone : ∀ (t : Session) (rest : List Text),
          (t.nextCluster iterator rest).result ≠ .ok answer := by
        intro t rest hnext
        cases rest <;> cases hnext <;> cases hmade
      simp only [Session.step] at hanswer
      cases hiterator : s.iterators[iterator]? with
      | none => simp [hiterator, Outcome.failed] at hanswer
      | some found =>
          cases found with
          | running rest => exact absurd (by simpa only [hiterator] using hanswer) (hnone s rest)
          | waiting origin =>
              cases hview : s.views[origin]? with
              | none => simp [hiterator, hview, Outcome.failed] at hanswer
              | some view =>
                  exact absurd (by simpa only [hiterator, hview] using hanswer) (hnone _ _)
  | selectSegmenter choice =>
      simp only [Session.step, Settings.selectSegmenter] at hanswer
      cases hchoice : choice.resolve with
      | error fault => simp [hchoice, Outcome.failed, Outcome.onState, Outcome.map,
          Outcome.mapError, Except.map, Except.mapError] at hanswer
      | ok chosen =>
          simp only [hchoice] at hanswer
          cases hanswer
          cases hmade

/-- Every view that a run leaves or tells of shows, placed in the window, the same text. -/
theorem run_text_placedIn (hs : s.Valid outer.text) (steps : List Step)
    (hsteps : ∀ step ∈ steps, step.StaysInside) :
    ∀ reply ∈ s.run steps,
      (∀ view ∈ reply.state.views, (view.placedIn outer).text = view.text) ∧
      (∀ answer other made, reply.result = .ok answer → answer.made? = some (other, made) →
        (made.placedIn outer).text = made.text) := by
  induction steps generalizing s with
  | nil =>
      intro reply hreply
      cases hreply
  | cons first later ih =>
      have hfirst := hsteps first List.mem_cons_self
      have hvalid := (step_evolves hs hfirst.withinContract).valid
      intro reply hreply
      rcases List.mem_cons.1 hreply with rfl | hreply
      · constructor
        · intro view hview
          obtain ⟨hsource, hview⟩ := hvalid view hview
          exact hview.text_placedIn hsource
        · intro answer other made hanswer hmade
          obtain ⟨view, hview, hinside⟩ := step_made_inside hs hfirst hanswer hmade
          obtain ⟨hsource, hview⟩ := hs view hview
          exact Window.text_placedIn (hinside.1.trans hsource) (hinside.fits hview.fits)
      · exact ih hvalid (fun step hstep => hsteps step (List.mem_cons_of_mem _ hstep)) reply hreply

/-- Nothing outside the window is ever observed. A session that begins with a window inside a
source goes through steps that neither ask for the source nor give bounds in it just as the session
does that begins with the text of the window as its source: reply by reply, the two give the same
values and errors and go on with the same iterators and settings, and each view, in an answer or in
the session, and each answer to a question for a start is that of the second session placed in the
window, with the same size and the same text. -/
theorem run_sees_only_window {outer : Window} (hfits : outer.Fits) (settings : Settings)
    (steps : List Step) (hsteps : ∀ step ∈ steps, step.StaysInside) :
    (start settings outer).run steps =
      List.zipWith (fun step => placeReply outer (step.placeAnswer outer)) steps
        ((start settings (.ofText outer.text)).run steps) ∧
    ∀ reply ∈ (start settings (.ofText outer.text)).run steps,
      (∀ view ∈ reply.state.views, (view.placedIn outer).text = view.text) ∧
      (∀ answer other made, reply.result = .ok answer → answer.made? = some (other, made) →
        (made.placedIn outer).text = made.text) := by
  have hwhole : (Window.ofText outer.text).BuiltOn outer.text :=
    .parts 0 outer.text.length (Nat.le_of_eq (Nat.zero_add _))
  have hvalid := valid_start hwhole settings
  have hstart : start settings outer = (start settings (.ofText outer.text)).placedIn outer := by
    rw [start_placedIn, Window.ofText_placedIn hfits]
  constructor
  · rw [hstart]
    exact run_placedIn hvalid steps hsteps
  · exact run_text_placedIn hvalid steps hsteps

/-- A window that parts a flag from the regional indicator in front of it and a number from its last
digit, which is not found. -/
theorem run_sees_only_window_within_clusters :
    let outer : Window := ⟨['>', '🇦', '🇩', '🇪', ' ', '1', '2', '3'], 2, 5⟩
    let steps : List Step := [.query 0 .clusters, .query 0 (.indexOf (.text ['3'])),
      .chop 0 (.through [' ']), .query 0 .start, .query 1 .start, .derive 0 (.slice none none true)]
    outer.Fits ∧ (∀ step ∈ steps, step.StaysInside) ∧
      ((start {} outer).run steps).map Outcome.result =
        [.ok (.value (.list [.text ['🇩', '🇪'], .text [' '], .text ['1'], .text ['2']])),
          .ok (.value (.int (-1))), .ok (.view 1 ⟨outer.source, 2, 2⟩), .ok (.value (.int 5)),
          .ok (.value (.int 2)), .error .steppedSlice] ∧
      ((start {} (.ofText outer.text)).run steps).map Outcome.result =
        [.ok (.value (.list [.text ['🇩', '🇪'], .text [' '], .text ['1'], .text ['2']])),
          .ok (.value (.int (-1))), .ok (.view 1 ⟨outer.text, 0, 2⟩), .ok (.value (.int 3)),
          .ok (.value (.int 0)), .error .steppedSlice] ∧
      (start {} outer).run steps =
        List.zipWith (fun step => placeReply outer (step.placeAnswer outer)) steps
          ((start {} (.ofText outer.text)).run steps) ∧
      ∀ reply ∈ (start {} (.ofText outer.text)).run steps,
        (∀ view ∈ reply.state.views, (view.placedIn outer).text = view.text) ∧
        (∀ answer other made, reply.result = .ok answer → answer.made? = some (other, made) →
          (made.placedIn outer).text = made.text) := by
  intro outer steps
  have hfits : outer.Fits := by
    show 2 + 5 ≤ 8
    decide
  have hsteps : ∀ step ∈ steps, step.StaysInside := by
    simp [steps, Step.StaysInside]
  exact ⟨hfits, hsteps, by cbv, by cbv, run_sees_only_window hfits {} steps hsteps⟩

end Session

end TextCursor
