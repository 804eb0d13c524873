import TextCursor.Proofs.Session.Memo

/-!
# What a step leaves alone

A step either leaves every window, every iterator and the settings as they were (`Session.Unmoved`),
or it succeeds; and then the windows that it finds are still there, all but perhaps the one of the
view that it chops, with the windows that it makes behind them (`Session.Succeeds`).
`Session.step_unmoved_or_succeeds` says this of every step in every state of a session, and
`Session.steps_keep_frame` what follows: errors and misses are atomic, and only a chop of a view
moves its window.
-/

namespace TextCursor

/-- The step takes something off the view under this handle. -/
def Step.Chops (handle : Nat) : Step → Prop
  | .chop view _ => view = handle
  | _ => False

namespace Session

/-- The windows of the views, by handle. -/
def windows (s : Session) : List Window :=
  s.views.map View.window

/-- The other session has the same windows, iterators and settings. Only memos may differ. -/
structure Unmoved (s t : Session) : Prop where
  windows : t.windows = s.windows
  iterators : t.iterators = s.iterators
  settings : t.settings = s.settings

/-- What a step comes to that does what it is for: it answers something, the windows are still
there, but for the one of the view that it chops, and new ones stand behind them. -/
structure Succeeds (s : Session) (step : Step) (reply : Reply) : Prop where
  answered : ∃ answer, reply.result = .ok answer ∧ answer ≠ .notFound
  windows : ∃ made, reply.state.windows = s.windows ++ made ∨
    ∃ handle w, step.Chops handle ∧ reply.state.windows = s.windows.set handle w ++ made

/-- What an iterator answers for a cluster, or where there is none left. -/
def clusterAnswer : Option Text → Answer
  | some cluster => textAnswer cluster
  | none => .value .null

variable {s t : Session} {handle : Nat} {view : View} {step : Step}

/-- A session is unmoved from itself. -/
theorem Unmoved.refl (s : Session) : Unmoved s s :=
  ⟨rfl, rfl, rfl⟩

/-- The window of the view under a handle. -/
theorem windows_getElem? (s : Session) (handle : Nat) :
    s.windows[handle]? = s.views[handle]?.map View.window :=
  List.getElem?_map

/-- Putting a view under a handle puts its window there. -/
@[simp] theorem windows_putView (s : Session) (handle : Nat) (view : View) :
    (s.putView handle view).windows = s.windows.set handle view.window :=
  List.map_set

/-- A new view has its window behind the others. -/
@[simp] theorem windows_addView (s : Session) (w : Window) :
    (s.addView w).2.windows = s.windows ++ [w] := by
  simp [windows, addView, View.ofWindow]

/-- Putting a view back under its handle moves nothing when its window is the same. -/
theorem unmoved_putView (hview : s.views[handle]? = some view) {moved : View}
    (hwindow : moved.window = view.window) : Unmoved s (s.putView handle moved) where
  windows := by
    have hsame : s.windows[handle]? = some moved.window := by
      rw [windows_getElem?, hview, hwindow, Option.map_some]
    obtain ⟨hhandle, hget⟩ := List.getElem?_eq_some_iff.1 hsame
    rw [windows_putView, ← hget, List.set_getElem_self]
  iterators := rfl
  settings := rfl

/-- Memoizing a view where its clusters are needed moves nothing. -/
theorem unmoved_memoizedIf (hview : s.views[handle]? = some view) (needed : Bool) :
    Unmoved s (s.memoizedIf needed handle) := by
  rw [memoizedIf_eq_putView hview]
  exact unmoved_putView hview (view.window_memoizeIf needed s.segmenter)

/-- A step that succeeds in a session that nothing has moved from succeeds in that one. -/
theorem Succeeds.of_unmoved {reply : Reply} (h : Unmoved s t) (hreply : Succeeds t step reply) :
    Succeeds s step reply where
  answered := hreply.answered
  windows := by
    rw [← h.windows]
    exact hreply.windows

/-- A step that answers a value and leaves the windows as they are succeeds. -/
theorem Succeeds.value {reply : Reply} {datum : Datum} (hresult : reply.result = .ok (.value datum))
    (hwindows : reply.state.windows = s.windows) : Succeeds s step reply where
  answered := ⟨_, hresult, by simp⟩
  windows := ⟨[], .inl (by rw [hwindows, List.append_nil])⟩

/-- The answer for a number that is there is not that there is none. -/
theorem numberAnswer_some_ne (value : Datum) (fallback : Option Datum) :
    numberAnswer (some value) fallback ≠ .notFound := by
  cases fallback <;> simp [numberAnswer]

/-- A chopped number moves its view, or nothing. -/
theorem chopView_number_unmoved_or_succeeds (s : Session) (handle : Nat) (view : View)
    (clusters : List Text) (kind : NumberKind) (fallback : Option Datum) :
    Unmoved s (s.chopView handle view clusters (.number kind fallback)).state ∨
      Succeeds s (.chop handle (.number kind fallback))
        (s.chopView handle view clusters (.number kind fallback)) := by
  simp only [chopView]
  cases view.chopNumber s.segmenter kind with
  | error fault => exact .inl (.refl s)
  | ok number =>
      cases number with
      | none => exact .inl (.refl s)
      | some reading =>
          obtain ⟨value, behind⟩ := reading
          refine .inr ⟨⟨_, rfl, numberAnswer_some_ne value fallback⟩, [], .inr ?_⟩
          exact ⟨handle, behind.window, rfl, by simp [Outcome.done]⟩

/-- A built-in chopper moves its view, or nothing. -/
theorem chopView_chopper_unmoved_or_succeeds (hview : s.views[handle]? = some view)
    (clusters : List Text) (name : Text) :
    Unmoved s (s.chopView handle view clusters (.chopper name)).state ∨
      Succeeds s (.chop handle (.chopper name))
        (s.chopView handle view clusters (.chopper name)) := by
  simp only [chopView]
  cases hfind : Registry.builtin.find? name with
  | none => exact .inl (.refl s)
  | some chopper =>
      have hstays := Registry.staysOnFailure_of_find?_builtin hfind s.settings view
      cases hresult : (chopper s.settings view).result with
      | error fault => exact .inl (unmoved_putView hview (hstays fault hresult))
      | ok value =>
          refine .inr ⟨⟨.value value, ?_, by simp⟩, [], .inr ?_⟩
          · simp [Outcome.onState, Outcome.map, Outcome.mapError, hresult, Except.mapError,
              Except.map]
          · exact ⟨handle, (chopper s.settings view).state.window, rfl,
              by simp [Outcome.onState, Outcome.map, Outcome.mapError]⟩

/-- A chop moves its view, or nothing. -/
theorem chopView_unmoved_or_succeeds (hview : s.views[handle]? = some view)
    (clusters : List Text) (chop : Chop) :
    Unmoved s (s.chopView handle view clusters chop).state ∨
      Succeeds s (.chop handle chop) (s.chopView handle view clusters chop) := by
  cases hcut : s.cutOf? view clusters chop with
  | some cut =>
      rw [chopView_of_cut handle hcut]
      refine .inr ⟨⟨_, rfl, ?_⟩, [cut.removed], .inr ⟨handle, cut.rest, rfl, ?_⟩⟩
      · cases chop <;> simp [Chop.answer, followCut, addView]
      · simp [Outcome.done, followCut, View.follow, View.move]
  | none =>
      rcases chopView_of_no_cut chop with ⟨result, -, hmissed⟩ | ⟨kind, fallback, rfl⟩ | ⟨name, rfl⟩
      · rw [hmissed s handle view clusters hcut]
        exact .inl (.refl s)
      · exact chopView_number_unmoved_or_succeeds s handle view clusters kind fallback
      · exact chopView_chopper_unmoved_or_succeeds hview clusters name

/-- An iterator hands out the first of the clusters that are left, and keeps the others. -/
theorem nextCluster_eq (s : Session) (iterator : Nat) (rest : List Text) :
    s.nextCluster iterator rest = .done (clusterAnswer rest.head?)
      { s with iterators := s.iterators.set iterator (.running rest.tail) } := by
  cases rest <;> rfl

/-- Asking an iterator leaves the windows where they are. -/
theorem windows_step_next (s : Session) (iterator : Nat) :
    (s.step (.next iterator)).state.windows = s.windows := by
  simp only [Session.step]
  cases s.iterators[iterator]? with
  | none => rfl
  | some found =>
      cases found with
      | running rest => simp only [nextCluster_eq, Outcome.done, windows]
      | waiting origin =>
          simp only [nextCluster_eq]
          cases hview : s.views[origin]? with
          | none => rfl
          | some view => exact (unmoved_memoizedIf hview true).windows

/-- What an iterator answers is a value, whether it has a cluster left or not. -/
theorem exists_clusterAnswer_eq (cluster : Option Text) :
    ∃ datum, clusterAnswer cluster = .value datum := by
  cases cluster <;> exact ⟨_, rfl⟩

/-- Asking an iterator moves nothing, or gives a value. -/
theorem step_next_unmoved_or_succeeds (s : Session) (iterator : Nat) :
    Unmoved s (s.step (.next iterator)).state ∨
      Succeeds s (.next iterator) (s.step (.next iterator)) := by
  have hwindows := windows_step_next s iterator
  simp only [Session.step] at hwindows ⊢
  cases hiterator : s.iterators[iterator]? with
  | none => exact .inl (.refl s)
  | some found =>
      simp only [hiterator] at hwindows
      cases found with
      | running rest =>
          simp only [nextCluster_eq] at hwindows ⊢
          obtain ⟨datum, hdatum⟩ := exists_clusterAnswer_eq rest.head?
          exact .inr (.value (congrArg Except.ok hdatum) hwindows)
      | waiting origin =>
          simp only [nextCluster_eq] at hwindows ⊢
          cases hview : s.views[origin]? with
          | none => exact .inl (.refl s)
          | some view =>
              obtain ⟨datum, hdatum⟩ := exists_clusterAnswer_eq (view.clusters s.segmenter).head?
              simp only [hview] at hwindows
              exact .inr (.value (congrArg Except.ok hdatum) hwindows)

/-- Every step, in whatever state the session is, moves nothing or succeeds. -/
theorem step_unmoved_or_succeeds (s : Session) (step : Step) :
    Unmoved s (s.step step).state ∨ Succeeds s step (s.step step) := by
  cases step with
  | query handle query =>
      left
      simp only [Session.step]
      cases hview : s.views[handle]? with
      | none => exact .refl s
      | some view =>
          simp only [(answerQuery_changes_nothing _ _ _ _).1]
          exact unmoved_memoizedIf hview _
  | derive handle derivation =>
      simp only [Session.step]
      cases hview : s.views[handle]? with
      | none => exact .inl (.refl s)
      | some view =>
          have hseen := unmoved_memoizedIf hview derivation.needsClusters
          simp only
          cases deriveWindow s.segmenter view.window (view.clusters s.segmenter) derivation with
          | error error => exact .inl hseen
          | ok w =>
              refine .inr (.of_unmoved hseen ⟨⟨_, rfl, ?_⟩, [w], .inl ?_⟩)
              · simp [addView]
              · exact windows_addView _ w
  | chop handle chop =>
      simp only [Session.step]
      cases hview : s.views[handle]? with
      | none => exact .inl (.refl s)
      | some view =>
          simp only
          -- the chop works on the view that may have been memoized, under the same handle
          have hwindow := view.window_memoizeIf (chop.needsClusters s.segmenter) s.segmenter
          generalize view.memoizeIf (chop.needsClusters s.segmenter) s.segmenter = seen at hwindow
          have hseen := unmoved_putView hview hwindow
          rcases chopView_unmoved_or_succeeds (getElem?_putView hview seen)
            (view.clusters s.segmenter) chop with hunmoved | hsucceeds
          · exact .inl ⟨hunmoved.windows.trans hseen.windows, hunmoved.iterators, hunmoved.settings⟩
          · exact .inr (.of_unmoved hseen hsucceeds)
  | iterate handle => exact .inr (.value rfl rfl)
  | next iterator => exact step_next_unmoved_or_succeeds s iterator
  | selectSegmenter choice =>
      simp only [Session.step, Settings.selectSegmenter]
      cases choice.resolve with
      | error fault => exact .inl ⟨rfl, rfl, rfl⟩
      | ok chosen => exact .inr (.value rfl rfl)

/-- A step that fails moves nothing. -/
theorem unmoved_of_error {error : Error} (h : (s.step step).result = .error error) :
    Unmoved s (s.step step).state := by
  rcases step_unmoved_or_succeeds s step with hunmoved | ⟨⟨answer, hanswer, -⟩, -⟩
  · exact hunmoved
  · rw [h] at hanswer
    cases hanswer

/-- A step that does not find what it looks for moves nothing. -/
theorem unmoved_of_notFound (h : (s.step step).result = .ok .notFound) :
    Unmoved s (s.step step).state := by
  rcases step_unmoved_or_succeeds s step with hunmoved | ⟨⟨answer, hanswer, hfound⟩, -⟩
  · exact hunmoved
  · rw [h] at hanswer
    cases hanswer
    exact absurd rfl hfound

/-- Chopping a number that is not there moves nothing, also where a fallback takes its place. -/
theorem unmoved_of_no_number {kind : NumberKind}
    (h : (s.step (.chop handle (.number kind none))).result = .ok .notFound)
    (fallback : Option Datum) :
    Unmoved s (s.step (.chop handle (.number kind fallback))).state := by
  simp only [Session.step] at h ⊢
  cases hview : s.views[handle]? with
  | none => exact .refl s
  | some view =>
      have hseen := unmoved_putView hview (View.window_memoize view s.segmenter)
      simp only [hview, Chop.needsClusters, View.memoizeIf, if_true, chopView] at h ⊢
      cases hnumber : (view.memoize s.segmenter).chopNumber _ kind with
      | error fault => exact hseen
      | ok number =>
          cases number with
          | none => exact hseen
          | some reading =>
              rw [hnumber] at h
              exact absurd (Except.ok.inj h) (numberAnswer_some_ne reading.1 none)

/-- No step takes a view away. -/
theorem length_windows_le_step (s : Session) (step : Step) :
    s.windows.length ≤ (s.step step).state.windows.length := by
  rcases step_unmoved_or_succeeds s step with hunmoved | ⟨-, made, hkept | ⟨_, _, -, hset⟩⟩
  · rw [hunmoved.windows]
  · rw [hkept, List.length_append]
    exact Nat.le_add_right _ _
  · rw [hset, List.length_append, List.length_set]
    exact Nat.le_add_right _ _

/-- A view that is there is there after every run. -/
theorem exists_view_after (steps : List Step) {handle : Nat} (h : handle < s.views.length) :
    ∃ view, (s.after steps).views[handle]? = some view := by
  induction steps generalizing s with
  | nil => exact ⟨_, List.getElem?_eq_getElem h⟩
  | cons first later ih =>
      have hlength := length_windows_le_step s first
      rw [windows, windows, List.length_map, List.length_map] at hlength
      exact ih (h.trans_le hlength)

/-- A step leaves the window of every view that it does not chop. -/
theorem step_keeps_window (hstep : ¬ step.Chops handle) {w : Window}
    (hw : s.windows[handle]? = some w) : (s.step step).state.windows[handle]? = some w := by
  have hhandle := (List.getElem?_eq_some_iff.1 hw).1
  rcases step_unmoved_or_succeeds s step with hunmoved | ⟨-, made, hkept | ⟨other, v, hother, hset⟩⟩
  · rw [hunmoved.windows, hw]
  · rw [hkept, List.getElem?_append_left hhandle, hw]
  · have hne : other ≠ handle := by
      rintro rfl
      exact hstep hother
    rw [hset, List.getElem?_append_left (by simpa using hhandle), List.getElem?_set_ne hne, hw]

/-- No chop changes the segmenter in force. -/
theorem segmenter_step_chop (s : Session) (handle : Nat) (chop : Chop) :
    (s.step (.chop handle chop)).state.segmenter = s.segmenter := by
  simp only [Session.step]
  cases s.views[handle]? with
  | none => rfl
  | some view =>
      cases chop with
      | first | last | «while» | lastWhile | through => rfl
      | tryThrough | throughText | number | chopper =>
          simp only [chopView, withOperand]
          split <;> rfl

/-- A run leaves the window of a view when all its chops of that view fail or miss. -/
theorem after_keeps_window {steps : List Step} {w : Window}
    (hsteps : ∀ earlier step later, steps = earlier ++ step :: later → step.Chops handle →
      (∃ error, ((s.after earlier).step step).result = .error error) ∨
        ((s.after earlier).step step).result = .ok .notFound)
    (hw : s.windows[handle]? = some w) : (s.after steps).windows[handle]? = some w := by
  -- the window is kept by the first step, and the session that this leaves takes the others
  induction steps generalizing s with
  | nil => exact hw
  | cons first others ih =>
      have hfirst : (s.step first).state.windows[handle]? = some w := by
        by_cases hchops : first.Chops handle
        · have hnothing : (∃ error, (s.step first).result = .error error) ∨
              (s.step first).result = .ok .notFound := hsteps [] first others rfl hchops
          rcases hnothing with ⟨error, herror⟩ | hmissed
          · rw [(unmoved_of_error herror).windows, hw]
          · rw [(unmoved_of_notFound hmissed).windows, hw]
        · exact step_keeps_window hchops hw
      refine ih ?_ hfirst
      intro earlier step later hothers hchops
      exact hsteps (first :: earlier) step later (by rw [hothers]; rfl) hchops

/-- The frame of every step and the atomicity of errors. In whatever state a session is, with any
number of views and iterators: a step that fails leaves every window, every iterator and the
settings as they were; so does one that does not find what it looks for, and the chop of a number
that is not there, with a fallback or without. A step leaves the window of each view that it does
not chop, be it a step of another kind or a chop of another view, and also where the view is what is
searched for. Over a whole run a view therefore stays where it is unless a chop of it succeeds. -/
theorem steps_keep_frame (s : Session) :
    (∀ step error, (s.step step).result = .error error → Unmoved s (s.step step).state) ∧
    (∀ step, (s.step step).result = .ok .notFound → Unmoved s (s.step step).state) ∧
    (∀ handle kind fallback,
      (s.step (.chop handle (.number kind none))).result = .ok .notFound →
      Unmoved s (s.step (.chop handle (.number kind fallback))).state) ∧
    (∀ (step : Step) handle w, ¬ step.Chops handle → s.windows[handle]? = some w →
      (s.step step).state.windows[handle]? = some w) ∧
    (∀ steps handle w,
      (∀ earlier step later, steps = earlier ++ step :: later → step.Chops handle →
        (∃ error, ((s.after earlier).step step).result = .error error) ∨
          ((s.after earlier).step step).result = .ok .notFound) →
      s.windows[handle]? = some w → (s.after steps).windows[handle]? = some w) :=
  ⟨fun _ _ h => unmoved_of_error h, fun _ h => unmoved_of_notFound h,
    fun _ _ fallback h => unmoved_of_no_number h fallback, fun _ _ _ h hw => step_keeps_window h hw,
    fun _ _ _ h hw => after_keeps_window h hw⟩

/-- A word that is searched for in a number: the view of the word does not begin with an integer,
which is an error, a miss, or the fallback; it stays where it is when the other view is cut through
its text. -/
theorem steps_keep_frame_word_in_number :
    let s := (ofWindows {} [.ofText ['1', 'x', '2'], .ofText ['x']]).after [.iterate 0, .next 0]
    let refused : Step := .chop 1 (.chopper (Text.lit "int"))
    let search : Step := .chop 0 (.throughText (.view 1))
    (s.step refused).result = .error (.chop (.refused (Text.lit "int") ['x'])) ∧
      Unmoved s (s.step refused).state ∧
      (s.step (.chop 1 (.number .whole none))).result = .ok .notFound ∧
      Unmoved s (s.step (.chop 1 (.number .whole none))).state ∧
      Unmoved s (s.step (.chop 1 (.number .whole (some (.int 7))))).state ∧
      ¬ search.Chops 1 ∧ s.windows[1]? = some (.ofText ['x']) ∧
      (s.step search).state.windows = [⟨['1', 'x', '2'], 2, 1⟩, .ofText ['x'],
        ⟨['1', 'x', '2'], 0, 1⟩] ∧
      (s.step search).state.windows[1]? = some (.ofText ['x']) ∧
      (s.after [search, refused]).windows[1]? = some (.ofText ['x']) := by
  intro s refused search
  obtain ⟨herror, hmiss, hnumber, hkeeps, hrun⟩ := steps_keep_frame s
  have hrefused : (s.step refused).result = .error (.chop (.refused (Text.lit "int") ['x'])) :=
    rfl
  have hmissed : (s.step (.chop 1 (.number .whole none))).result = .ok .notFound := rfl
  have hsearch : ¬ search.Chops 1 := by
    simp [search, Step.Chops]
  have hword : s.windows[1]? = some (.ofText ['x']) := by
    decide
  have hagain : ((s.after [search]).step refused).result =
      .error (.chop (.refused (Text.lit "int") ['x'])) :=
    rfl
  refine ⟨hrefused, herror refused _ hrefused, hmissed, hmiss _ hmissed,
    hnumber 1 .whole (some (.int 7)) hmissed, hsearch, hword, by decide,
    hkeeps search 1 _ hsearch hword, hrun [search, refused] 1 _ ?_ hword⟩
  intro earlier step later hsteps hchops
  rcases List.append_eq_cons_iff.1 hsteps.symm with ⟨rfl, hstep⟩ | ⟨others, rfl, hothers⟩
  · obtain ⟨rfl, -⟩ := List.cons.inj hstep
    exact absurd hchops hsearch
  · rcases List.append_eq_singleton_iff.1 hothers.symm with ⟨rfl, hstep⟩ | ⟨-, hstep⟩
    · obtain ⟨rfl, -⟩ := List.cons.inj hstep
      exact .inl ⟨_, hagain⟩
    · cases hstep

end Session

end TextCursor
