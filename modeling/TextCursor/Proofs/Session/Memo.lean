import TextCursor.Proofs.Session.Windows

/-!
# Memos are never stale

A session keeps with each view the clusters that were last found, and does not drop them when the
window moves or another segmenter is chosen. A step that consults no clusters leaves the memo of its
view alone, whatever the segmenter in force (`Session.step_keepsMemo`), so a memo may outlive any
number of steps under other segmenters before its bounds and its segmenter are those in force again.

`Session.stepAfresh` is a step that keeps no memos and segments the text of a view wherever its
clusters are asked for. That steps with and without memos come to the same (`Session.step_forget`)
follows from every memo being honest, which each step preserves (`Session.step_honest`); over whole
runs this is `Session.memos_never_stale`. It asks nothing of the bounds from which views are made.
-/

namespace TextCursor

/-- A view that has forgotten its memo has none to forget. -/
@[simp] theorem View.forget_forget (v : View) : v.forget.forget = v.forget := rfl

/-- A new view has no memo to forget. -/
@[simp] theorem View.forget_ofWindow (w : Window) : (View.ofWindow w).forget = .ofWindow w := rfl

/-- Forgetting its memo does not move a view. -/
@[simp] theorem View.window_forget (v : View) : v.forget.window = v.window := rfl

/-- Forgetting its memo does not change what a view shows. -/
@[simp] theorem View.text_forget (v : View) : v.forget.text = v.text := rfl

/-- A memo that may just have been made can be forgotten. -/
@[simp] theorem View.forget_memoizeIf (v : View) (needed : Bool) (segmenter : Segmenter) :
    (v.memoizeIf needed segmenter).forget = v.forget := by
  cases needed <;> rfl

/-- The number at the front of an honest view does not depend on its memo. -/
theorem View.Honest.peekNumber_forget {v : View} (h : v.Honest) (segmenter : Segmenter)
    (kind : NumberKind) : v.forget.peekNumber segmenter kind = v.peekNumber segmenter kind := by
  rw [View.peekNumber, View.peekNumber, clusters_forget, h.clusters_eq]
  rfl

/-- What is chopped off the front of an honest view does not depend on its memo, which stays with
the view. -/
theorem View.Honest.chopNumber_forget {v : View} (h : v.Honest) (segmenter : Segmenter)
    (kind : NumberKind) :
    v.forget.chopNumber segmenter kind =
      (v.chopNumber segmenter kind).map (·.map (Prod.map id View.forget)) := by
  rw [View.chopNumber, View.chopNumber, clusters_forget, h.clusters_eq]
  show ((v.window.readNumber (segmenter.clusters v.text) kind).map _) = _
  cases v.window.readNumber (segmenter.clusters v.text) kind with
  | error fault => rfl
  | ok reading => cases reading <;> rfl

namespace Session

/-- A session with new views of these windows, of one source or of several. -/
def ofWindows (settings : Settings) (windows : List Window) : Session where
  settings := settings
  views := windows.map .ofWindow

/-- The session without the memos of its views. -/
def forget (s : Session) : Session :=
  { s with views := s.views.map View.forget }

/-- Carry out a step without memos: views are taken as they are without theirs, none is made, and
where the clusters of a view are asked for its text is segmented. -/
def stepAfresh (s : Session) : Step → Reply
  | .query handle query =>
      match s.views[handle]? with
      | none => .failed .noSuchHandle s
      | some view => s.answerQuery view.forget (s.segmenter.clusters view.text) query
  | .derive handle derivation =>
      match s.views[handle]? with
      | none => .failed .noSuchHandle s
      | some view =>
          match deriveWindow s.segmenter view.window (s.segmenter.clusters view.text)
              derivation with
          | .ok window =>
              let (answer, following) := s.addView window
              .done answer following
          | .error error => .failed error s
  | .chop handle chop =>
      match s.views[handle]? with
      | none => .failed .noSuchHandle s
      | some view => s.chopView handle view.forget (s.segmenter.clusters view.text) chop
  | .next handle =>
      match s.iterators[handle]? with
      | none => .failed .noSuchHandle s
      | some (.running rest) => s.nextCluster handle rest
      | some (.waiting origin) =>
          match s.views[origin]? with
          | none => .failed .noSuchHandle s
          | some view => s.nextCluster handle (s.segmenter.clusters view.text)
  | .iterate handle => s.step (.iterate handle)
  | .selectSegmenter choice => s.step (.selectSegmenter choice)

/-- Carry out steps one after the other, each of them without memos. -/
def runAfresh (s : Session) : List Step → List Reply
  | [] => []
  | first :: later =>
      let outcome := (s.stepAfresh first).onState forget
      outcome :: runAfresh outcome.state later

/-- Every memo of the session is honest. -/
def Honest (s : Session) : Prop :=
  ∀ view ∈ s.views, view.Honest

variable {s : Session} {handle : Nat} {view : View}

/-- New views have no memos to forget. -/
@[simp] theorem forget_ofWindows (settings : Settings) (windows : List Window) :
    (ofWindows settings windows).forget = ofWindows settings windows := by
  simp [forget, ofWindows, Function.comp_def]

/-- A session that has forgotten its memos has none to forget. -/
@[simp] theorem forget_forget (s : Session) : s.forget.forget = s.forget := by
  simp [forget, Function.comp_def]

/-- Forgetting memos does not change the segmenter in force. -/
@[simp] theorem segmenter_forget (s : Session) : s.forget.segmenter = s.segmenter := rfl

/-- Putting a view in the place of another one and forgetting the memos can be done in either
order. -/
@[simp] theorem forget_putView (s : Session) (handle : Nat) (view : View) :
    (s.putView handle view).forget = s.forget.putView handle view.forget := by
  simp only [forget, putView, List.map_set]

/-- Adding a view and forgetting the memos can be done in either order. -/
@[simp] theorem forget_addView (s : Session) (w : Window) :
    (s.addView w).2.forget = (s.forget.addView w).2 := by
  simp [forget, addView]

/-- The handle of a new view does not depend on memos. -/
@[simp] theorem addView_forget (s : Session) (w : Window) :
    (s.forget.addView w).1 = (s.addView w).1 := by
  simp [forget, addView]

/-- The text of an operand does not depend on memos. -/
@[simp] theorem operandText?_forget (s : Session) (operand : Operand) :
    s.forget.operandText? operand = s.operandText? operand := by
  cases operand with
  | text text => rfl
  | view handle =>
      simp only [operandText?, forget, List.getElem?_map, Option.map_map]
      rfl

/-- The view under a handle once the memos are forgotten. -/
@[simp] theorem getElem?_forget (s : Session) (handle : Nat) :
    s.forget.views[handle]? = s.views[handle]?.map View.forget :=
  List.getElem?_map

/-- A memo that a session may just have made can be forgotten. -/
@[simp] theorem forget_memoizedIf (s : Session) (needed : Bool) (handle : Nat) :
    (s.memoizedIf needed handle).forget = s.forget := by
  simp only [forget, memoizedIf, Session.mk.injEq, and_true, true_and]
  apply List.ext_getElem?
  intro other
  rw [List.getElem?_map, List.getElem?_map, List.getElem?_modify]
  by_cases hsame : handle = other
  · cases s.views[other]? <;> simp [hsame]
  · simp [hsame]

/-- The answer to a question about an honest view does not depend on memos. -/
theorem answerQuery_forget (hview : view.Honest) (clusters : List Text) (query : Query) :
    (s.answerQuery view clusters query).onState forget =
      s.forget.answerQuery view.forget clusters query := by
  cases query with
  | source | start | size | text | clusterCount | isNonempty | description | clusters
  | hasCluster | clusterAt => rfl
  | indexOf operand | equals operand | equalsIgnoringCase operand | startsWith operand
  | endsWith operand =>
      simp only [answerQuery, withOperand, operandText?_forget]
      cases s.operandText? operand <;> rfl
  | isValue value | isNotValue value =>
      cases value with
      | none => rfl
      | some operand =>
          simp only [answerQuery, withOperand, operandText?_forget]
          cases s.operandText? operand <;> rfl
  | item index =>
      simp only [answerQuery]
      cases Window.item? clusters index <;> rfl
  | peekNumber kind fallback =>
      simp only [answerQuery, segmenter_forget, hview.peekNumber_forget]
      cases view.peekNumber s.segmenter kind <;> rfl

/-- The cut that a chop makes does not depend on memos. -/
theorem cutOf?_forget (s : Session) (view : View) (clusters : List Text) (chop : Chop) :
    s.forget.cutOf? view.forget clusters chop = s.cutOf? view clusters chop := by
  cases chop with
  | throughText operand =>
      simp only [cutOf?, operandText?_forget]
      rfl
  | first | last | «while» | lastWhile | through | tryThrough | number | chopper => rfl

/-- Following a cut and forgetting the memos can be done in either order. -/
theorem forget_followCut (s : Session) (handle : Nat) (view : View) (cut : Cut) :
    (s.forget.followCut handle view.forget cut).1 = (s.followCut handle view cut).1 ∧
      (s.forget.followCut handle view.forget cut).2.forget =
        (s.followCut handle view cut).2.forget := by
  constructor
  · simp [followCut, addView, putView, forget]
  · simp only [followCut, forget_addView, forget_putView, forget_forget]
    rfl

/-- A chop that reads no value comes to the same with memos and without where it makes the same
cut. -/
theorem chopView_forget_of_cutOf? (handle : Nat) {clusters other : List Text} {chop : Chop}
    (hcuts : s.forget.cutOf? view.forget other chop = s.cutOf? view clusters chop)
    (hnumber : ∀ kind fallback, chop ≠ .number kind fallback)
    (hchopper : ∀ name, chop ≠ .chopper name) :
    (s.forget.chopView handle view.forget other chop).onState forget =
      (s.chopView handle view clusters chop).onState forget := by
  cases hcut : s.cutOf? view clusters chop with
  | some cut =>
      rw [hcut] at hcuts
      obtain ⟨hanswer, hstate⟩ := forget_followCut s handle view cut
      rw [chopView_of_cut handle hcut, chopView_of_cut handle hcuts]
      simp only [Outcome.onState, Outcome.done, hanswer, hstate]
  | none =>
      rw [hcut] at hcuts
      rcases chopView_of_no_cut chop with ⟨result, -, hmissed⟩ | ⟨kind, fallback, rfl⟩ | ⟨name, rfl⟩
      · rw [hmissed _ _ _ _ hcut, hmissed _ _ _ _ hcuts]
        simp only [Outcome.onState, forget_forget]
      · exact absurd rfl (hnumber kind fallback)
      · exact absurd rfl (hchopper name)

/-- What a chop takes off an honest view does not depend on memos. -/
theorem chopView_forget (hview : view.Honest) (clusters : List Text) (chop : Chop) :
    (s.forget.chopView handle view.forget clusters chop).onState forget =
      (s.chopView handle view clusters chop).onState forget := by
  cases chop with
  | number kind fallback =>
      have hchop := hview.chopNumber_forget s.segmenter kind
      simp only [chopView, segmenter_forget]
      cases hnumber : view.chopNumber s.segmenter kind with
      | error fault =>
          rw [hchop, hnumber]
          simp [Except.map, Outcome.onState, Outcome.failed]
      | ok number =>
          rw [hchop, hnumber]
          cases number <;> simp [Except.map, Outcome.onState, Outcome.done]
  | chopper name =>
      simp only [chopView]
      cases hfind : Registry.builtin.find? name with
      | none => simp [Outcome.onState, Outcome.failed]
      | some chopper =>
          have hignores := Registry.ignoresMemo_of_find?_builtin hfind
          have hsame : chopper s.forget.settings view.forget = chopper s.settings view :=
            hignores.forget s.settings view hview
          simp only [hsame]
          simp [Outcome.onState, Outcome.map, Outcome.mapError]
  | first | last | «while» | lastWhile | through | tryThrough | throughText =>
      exact chopView_forget_of_cutOf? handle (cutOf?_forget s view clusters _) (by simp) (by simp)

/-- What an iterator answers does not depend on memos. -/
theorem nextCluster_forget (s : Session) (iterator : Nat) (rest : List Text) :
    (s.nextCluster iterator rest).onState forget = s.forget.nextCluster iterator rest := by
  cases rest <;> rfl

/-- A step comes to the same with memos and without, up to the memos that it leaves. -/
theorem step_forget (hs : s.Honest) (step : Step) :
    (s.step step).onState forget = (s.forget.stepAfresh step).onState forget := by
  cases step with
  | query handle query =>
      cases hget : s.views[handle]? with
      | none => simp [Session.step, stepAfresh, hget, Outcome.onState, Outcome.failed]
      | some view =>
          have hview := hs view (List.mem_of_getElem? hget)
          have hforget : s.forget.views[handle]? = some view.forget := by
            rw [getElem?_forget, hget, Option.map_some]
          simp only [Session.step, stepAfresh, hget, hforget, hview.clusters_eq]
          rw [answerQuery_forget hview, answerQuery_forget (View.honest_forget _),
            forget_memoizedIf, forget_forget]
          rfl
  | derive handle derivation =>
      cases hget : s.views[handle]? with
      | none => simp [Session.step, stepAfresh, hget, Outcome.onState, Outcome.failed]
      | some view =>
          have hview := hs view (List.mem_of_getElem? hget)
          have hforget : s.forget.views[handle]? = some view.forget := by
            rw [getElem?_forget, hget, Option.map_some]
          simp only [Session.step, stepAfresh, hget, hforget, hview.clusters_eq, segmenter_forget,
            View.window_forget, View.text_forget]
          cases deriveWindow s.segmenter view.window (s.segmenter.clusters view.text)
              derivation with
          | error error => simp [Outcome.onState, Outcome.failed]
          | ok w =>
              simp [Outcome.onState, Outcome.done,
                ← addView_forget (s.memoizedIf derivation.needsClusters handle)]
  | chop handle chop =>
      cases hget : s.views[handle]? with
      | none => simp [Session.step, stepAfresh, hget, Outcome.onState, Outcome.failed]
      | some view =>
          have hview := hs view (List.mem_of_getElem? hget)
          have hforget : s.forget.views[handle]? = some view.forget := by
            rw [getElem?_forget, hget, Option.map_some]
          have hseen := forget_memoizedIf s (chop.needsClusters s.segmenter) handle
          rw [memoizedIf_eq_putView hget] at hseen
          simp only [Session.step, stepAfresh, hget, hforget, hview.clusters_eq]
          rw [← chopView_forget (hview.memoizeIf _ s.segmenter), hseen, View.forget_memoizeIf]
          rfl
  | iterate handle => simp [Session.step, stepAfresh, Outcome.onState, Outcome.done, forget]
  | next iterator =>
      have hiterators : s.forget.iterators = s.iterators := rfl
      simp only [Session.step, stepAfresh, hiterators]
      cases s.iterators[iterator]? with
      | none => simp [Outcome.onState, Outcome.failed]
      | some found =>
          cases found with
          | running rest => simp only [nextCluster_forget, forget_forget]
          | waiting origin =>
              simp only [getElem?_forget]
              cases hget : s.views[origin]? with
              | none => simp [Outcome.onState, Outcome.failed]
              | some view =>
                  have hview := hs view (List.mem_of_getElem? hget)
                  simp only [Option.map_some, nextCluster_forget, forget_memoizedIf, forget_forget,
                    hview.clusters_eq]
                  rfl
  | selectSegmenter choice =>
      simp [Session.step, stepAfresh, Outcome.onState, Outcome.map, Outcome.mapError, forget]

/-- Putting an honest view into a session of honest memos leaves it one. -/
theorem Honest.putView (hs : s.Honest) (handle : Nat) (hview : view.Honest) :
    (s.putView handle view).Honest := by
  intro other hother
  rcases List.mem_or_eq_of_mem_set hother with hold | rfl
  · exact hs other hold
  · exact hview

/-- Adding a view to a session of honest memos leaves it one. -/
theorem Honest.addView (hs : s.Honest) (w : Window) : (s.addView w).2.Honest := by
  intro other hother
  rcases List.mem_append.1 hother with hold | hnew
  · exact hs other hold
  · obtain rfl := List.mem_singleton.1 hnew
    exact View.honest_ofWindow w

/-- Memoizing a view of a session of honest memos where its clusters are needed leaves it one. -/
theorem Honest.memoizedIf (hs : s.Honest) (hget : s.views[handle]? = some view) (needed : Bool) :
    (s.memoizedIf needed handle).Honest := by
  rw [memoizedIf_eq_putView hget]
  exact hs.putView handle ((hs view (List.mem_of_getElem? hget)).memoizeIf needed s.segmenter)

/-- What remains behind a cut is a window on the same source. -/
theorem cutOf?_source {clusters : List Text} {chop : Chop} {cut : Cut}
    (h : s.cutOf? view clusters chop = some cut) :
    cut.rest.source = view.window.source := by
  have hthrough : ∀ count delimiter found,
      view.window.chopThrough? clusters count delimiter = some found →
        found.rest.source = view.window.source := by
    intro count delimiter found hfound
    obtain ⟨before, -, rfl⟩ := Option.map_eq_some_iff.1 hfound
    rfl
  cases chop with
  | first | «while» | lastWhile =>
      cases h
      rfl
  | last count =>
      cases h
      rw [Window.chopLast]
      split <;> rfl
  | through delimiter =>
      cases h
      cases hfound : view.window.chopThrough? clusters (s.segmenter.clusters delimiter).length
          delimiter with
      | none => rfl
      | some found => exact hthrough _ _ _ hfound
  | tryThrough delimiter => exact hthrough _ _ _ h
  | throughText operand =>
      obtain ⟨needle, -, rfl⟩ := Option.map_eq_some_iff.1 h
      rw [Window.chopThroughText]
      cases Text.indexOf? needle view.window.text <;> rfl
  | number | chopper => cases h

/-- A chop of an honest view leaves a session of honest memos one. -/
theorem chopView_honest (hs : s.Honest) (hview : view.Honest) (clusters : List Text)
    (chop : Chop) : (s.chopView handle view clusters chop).state.Honest := by
  cases hcut : s.cutOf? view clusters chop with
  | some cut =>
      rw [chopView_of_cut handle hcut]
      exact (hs.putView handle (hview.move (cutOf?_source hcut))).addView cut.removed
  | none =>
      rcases chopView_of_no_cut chop with ⟨result, -, hmissed⟩ | ⟨kind, fallback, rfl⟩ | ⟨name, rfl⟩
      · rw [hmissed _ _ _ _ hcut]
        exact hs
      · simp only [chopView]
        cases hchop : view.chopNumber s.segmenter kind with
        | error fault => exact hs
        | ok number =>
            cases number with
            | none => exact hs
            | some reading =>
                obtain ⟨value, behind⟩ := reading
                obtain ⟨numeral, -, -, rfl⟩ := hview.chopNumber_eq_some hchop
                exact hs.putView handle (hview.move rfl)
      · simp only [chopView]
        cases hfind : Registry.builtin.find? name with
        | none => exact hs
        | some chopper =>
            have hignores := Registry.ignoresMemo_of_find?_builtin hfind
            exact hs.putView handle (hignores.honest s.settings view hview)

/-- An iterator makes no memo. -/
theorem nextCluster_honest (hs : s.Honest) (iterator : Nat) (rest : List Text) :
    (s.nextCluster iterator rest).state.Honest := by
  cases rest <;> exact hs

/-- Every step leaves a session of honest memos one. -/
theorem step_honest (hs : s.Honest) (step : Step) : (s.step step).state.Honest := by
  cases step with
  | query handle query =>
      simp only [Session.step]
      cases hget : s.views[handle]? with
      | none => exact hs
      | some view =>
          simp only [(answerQuery_changes_nothing _ _ _ _).1]
          exact hs.memoizedIf hget _
  | derive handle derivation =>
      simp only [Session.step]
      cases hget : s.views[handle]? with
      | none => exact hs
      | some view =>
          simp only
          cases deriveWindow s.segmenter view.window (view.clusters s.segmenter) derivation with
          | error error => exact hs.memoizedIf hget _
          | ok w => exact (hs.memoizedIf hget _).addView w
  | chop handle chop =>
      simp only [Session.step]
      cases hget : s.views[handle]? with
      | none => exact hs
      | some view =>
          have hview := hs view (List.mem_of_getElem? hget)
          have hseen := hview.memoizeIf (chop.needsClusters s.segmenter) s.segmenter
          exact chopView_honest (hs.putView handle hseen) hseen _ chop
  | iterate handle => exact hs
  | next iterator =>
      simp only [Session.step]
      cases s.iterators[iterator]? with
      | none => exact hs
      | some found =>
          cases found with
          | running rest => exact nextCluster_honest hs iterator rest
          | waiting origin =>
              simp only
              cases hget : s.views[origin]? with
              | none => exact hs
              | some view => exact nextCluster_honest (hs.memoizedIf hget true) iterator _
  | selectSegmenter choice => exact hs

/-- Every run leaves a session of honest memos one. -/
theorem after_honest (hs : s.Honest) (steps : List Step) : (s.after steps).Honest := by
  induction steps generalizing s with
  | nil => exact hs
  | cons first later ih => exact ih (step_honest hs first)

/-- A run comes to the same with memos and without, up to the memos that its steps leave. -/
theorem run_forget (hs : s.Honest) (steps : List Step) :
    (s.run steps).map (·.onState forget) = s.forget.runAfresh steps := by
  induction steps generalizing s with
  | nil => rfl
  | cons first later ih =>
      have hfirst := step_forget hs first
      have hstate : (s.step first).state.forget = (s.forget.stepAfresh first).state.forget :=
        congrArg Outcome.state hfirst
      rw [run, List.map_cons, runAfresh, hfirst, ih (step_honest hs first), hstate]
      rfl

/-- A session of new views has no memo to be wrong about. -/
theorem honest_ofWindows (settings : Settings) (windows : List Window) :
    (ofWindows settings windows).Honest := by
  intro view hview
  obtain ⟨w, -, rfl⟩ := List.mem_map.1 hview
  exact View.honest_ofWindow w

/-- Memos are never stale. Whatever steps a session of new views has gone through, switches of the
segmenter and back among them, a memo whose bounds and segmenter are those of its view and of the
session holds the clusters of the text that the view shows. Every run therefore gives the same
results and errors and leaves the same windows, iterators and settings, step by step, as the run in
which no view has a memo and its text is segmented wherever its clusters are asked for. -/
theorem memos_never_stale (settings : Settings) (windows : List Window) (steps : List Step) :
    (∀ view ∈ ((ofWindows settings windows).after steps).views, ∀ memo,
      view.memo = some memo →
      view.Remembers ((ofWindows settings windows).after steps).segmenter memo →
      memo.clusters =
        ((ofWindows settings windows).after steps).segmenter.clusters view.text) ∧
    ((ofWindows settings windows).run steps).map (·.onState forget) =
      (ofWindows settings windows).runAfresh steps := by
  have hs := honest_ofWindows settings windows
  constructor
  · intro view hview memo hmemo hkey
    have hhonest : memo.Honest view.window.source := after_honest hs steps view hview memo hmemo
    obtain ⟨hstart, hsize, hsegmenter⟩ := hkey
    rw [hhonest, hstart, hsize, hsegmenter]
    rfl
  · rw [run_forget hs steps, forget_ofWindows]

/-- Two sources and a flag: while another segmenter is in force, one of the views is cut through its
flag, and the other one is asked for its text, copied and chopped without its clusters being needed;
when the first segmenter is back, the memo of that view fits again. -/
theorem memos_never_stale_after_switching_back :
    let windows := [⟨['>', '🇩', '🇪', ','], 1, 3⟩, .ofText ['🇩', '🇪']]
    let steps : List Step := [.query 0 .clusterCount, .query 1 .clusterCount,
      .selectSegmenter (.given .codePoints), .chop 1 (.first 1), .query 0 .text, .derive 0 .copy,
      .chop 0 (.first 0), .chop 0 (.throughText (.text [])),
      .selectSegmenter (.given .graphemes)]
    let s := (ofWindows {} windows).after steps
    let memo : Memo := ⟨1, 3, .graphemes, [['🇩', '🇪'], [',']]⟩
    let view : View := ⟨⟨['>', '🇩', '🇪', ','], 1, 3⟩, some memo⟩
    view ∈ s.views ∧ view.Remembers s.segmenter memo ∧
      memo.clusters = s.segmenter.clusters view.text ∧
      ((ofWindows {} windows).run (steps ++ [.query 0 .clusters, .query 1 .clusters])).map
          (·.onState forget) =
        (ofWindows {} windows).runAfresh (steps ++ [.query 0 .clusters, .query 1 .clusters]) := by
  intro windows steps s memo view
  have hget : s.views[0]? = some view := by
    unfold s steps windows
    rfl
  have hview : view ∈ s.views := List.mem_of_getElem? hget
  have hkey : view.Remembers s.segmenter memo := ⟨rfl, rfl, rfl⟩
  exact ⟨hview, hkey, (memos_never_stale {} windows steps).1 view hview memo rfl hkey,
    (memos_never_stale {} windows _).2⟩

end Session

end TextCursor
