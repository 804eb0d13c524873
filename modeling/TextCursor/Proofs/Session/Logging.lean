import TextCursor.Proofs.Session.Frame

/-!
# What views answer under other settings

Of all settings, what the steps of a session come to depends on the segmenter alone: how logging is
set up decides which notices are recorded, and nothing else (`Session.step_relog`). Memos do not
matter either. So two sessions with the same windows, iterators and segmenter come to the same
results and errors in every run, whatever memos and log levels they have
(`Session.map_result_run_eq`).
-/

namespace TextCursor

namespace Outcome

variable {σ ε α : Type}

/-- The same outcome without its notices. -/
def quiet (o : Outcome σ ε α) : Outcome σ ε α :=
  { o with notices := [] }

/-- Outcomes are the same without their notices when they come to the same and leave the same
state. -/
theorem quiet_eq_quiet_iff {o p : Outcome σ ε α} :
    o.quiet = p.quiet ↔ o.result = p.result ∧ o.state = p.state := by
  simp only [quiet, mk.injEq, and_true]

end Outcome

/-- These settings with logging as it is under others. -/
def Settings.relog (s log : Settings) : Settings :=
  { log with segmenter := s.segmenter }

/-- Selecting a segmenter comes to the same however logging is set up. -/
theorem Settings.selectSegmenter_relog (s log : Settings) (choice : SegmenterChoice) :
    ((s.relog log).selectSegmenter choice).quiet =
      ((s.selectSegmenter choice).onState (Settings.relog · log)).quiet := by
  unfold selectSegmenter
  cases choice.resolve <;> rfl

namespace Chopper

variable {ε α : Type}

/-- The chopper does the same however logging is set up, up to the notices that are recorded. -/
def IgnoresLogging (chopper : Chopper ε α) : Prop :=
  ∀ (settings log : Settings) (view : View),
    (chopper (settings.relog log) view).quiet = (chopper settings view).quiet

/-- A chopper of numbers ignores logging: settings decide only whether its failure is recorded. -/
theorem number_ignoresLogging (name : Text) (kind : NumberKind) :
    (number name kind).IgnoresLogging := by
  intro settings log view
  have hsegmenter : (settings.relog log).segmenter = settings.segmenter := rfl
  simp only [number, hsegmenter]
  split <;> rfl

/-- A chopper of leading clusters records nothing. -/
theorem leading_ignoresLogging (test : Text → Bool) : (leading (ε := ε) test).IgnoresLogging :=
  fun _ _ _ => rfl

/-- The chopper of an optional character records nothing. -/
theorem optional_ignoresLogging : (optional (ε := ε)).IgnoresLogging :=
  fun _ _ _ => rfl

end Chopper

/-- Every built-in chopper ignores logging. -/
theorem Registry.ignoresLogging_of_find?_builtin {name : Text}
    {chopper : Chopper ChopFault Datum} (h : builtin.find? name = some chopper) :
    chopper.IgnoresLogging := by
  rcases eq_of_find?_builtin h with rfl | rfl | rfl | rfl
  · exact Chopper.number_ignoresLogging _ _
  · exact Chopper.number_ignoresLogging _ _
  · exact Chopper.leading_ignoresLogging _
  · exact Chopper.optional_ignoresLogging

namespace Session

/-- The session with logging as it is under other settings. -/
def relog (log : Settings) (s : Session) : Session :=
  { s with settings := s.settings.relog log }

variable {s t : Session}

/-- The settings of a session with other logging. -/
@[simp] theorem settings_relog (log : Settings) (s : Session) :
    (s.relog log).settings = s.settings.relog log := rfl

/-- The segmenter in force does not depend on logging. -/
@[simp] theorem segmenter_relog (log : Settings) (s : Session) :
    (s.relog log).segmenter = s.segmenter := rfl

/-- The views are the same however logging is set up. -/
@[simp] theorem views_relog (log : Settings) (s : Session) : (s.relog log).views = s.views := rfl

/-- The iterators are the same however logging is set up. -/
@[simp] theorem iterators_relog (log : Settings) (s : Session) :
    (s.relog log).iterators = s.iterators := rfl

/-- The text of an operand does not depend on logging. -/
@[simp] theorem operandText?_relog (log : Settings) (s : Session) (operand : Operand) :
    (s.relog log).operandText? operand = s.operandText? operand := by
  cases operand <;> rfl

/-- The answer to a question about a view does not depend on logging. -/
theorem answerQuery_relog (log : Settings) (s : Session) (view : View) (clusters : List Text)
    (query : Query) :
    (s.relog log).answerQuery view clusters query =
      (s.answerQuery view clusters query).onState (relog log) := by
  cases query with
  | source | start | size | text | clusterCount | isNonempty | description | clusters
  | hasCluster | clusterAt => rfl
  | indexOf operand | equals operand | equalsIgnoringCase operand | startsWith operand
  | endsWith operand =>
      simp only [answerQuery, withOperand, operandText?_relog]
      cases s.operandText? operand <;> rfl
  | isValue value | isNotValue value =>
      cases value with
      | none => rfl
      | some operand =>
          simp only [answerQuery, withOperand, operandText?_relog]
          cases s.operandText? operand <;> rfl
  | item index =>
      simp only [answerQuery]
      cases Window.item? clusters index <;> rfl
  | peekNumber kind fallback =>
      simp only [answerQuery, segmenter_relog]
      cases view.peekNumber s.segmenter kind <;> rfl

/-- The cut that a chop makes does not depend on logging. -/
theorem cutOf?_relog (log : Settings) (s : Session) (view : View) (clusters : List Text)
    (chop : Chop) : (s.relog log).cutOf? view clusters chop = s.cutOf? view clusters chop := by
  cases chop with
  | throughText operand => simp only [cutOf?, operandText?_relog]
  | first | last | «while» | lastWhile | through | tryThrough | number | chopper => rfl

/-- What a chop takes off a view does not depend on logging. -/
theorem chopView_relog (log : Settings) (s : Session) (handle : Nat) (view : View)
    (clusters : List Text) (chop : Chop) :
    ((s.relog log).chopView handle view clusters chop).quiet =
      ((s.chopView handle view clusters chop).onState (relog log)).quiet := by
  have hcuts := cutOf?_relog log s view clusters chop
  cases hcut : s.cutOf? view clusters chop with
  | some cut =>
      rw [hcut] at hcuts
      rw [chopView_of_cut handle hcut, chopView_of_cut handle hcuts]
      rfl
  | none =>
      rw [hcut] at hcuts
      rcases chopView_of_no_cut chop with ⟨result, -, hmissed⟩ | ⟨kind, fallback, rfl⟩ | ⟨name, rfl⟩
      · rw [hmissed _ _ _ _ hcut, hmissed _ _ _ _ hcuts]
        rfl
      · simp only [chopView, segmenter_relog]
        cases view.chopNumber s.segmenter kind with
        | error fault => rfl
        | ok number => cases number <;> rfl
      · simp only [chopView]
        cases hfind : Registry.builtin.find? name with
        | none => rfl
        | some chopper =>
            obtain ⟨hresult, hstate⟩ := Outcome.quiet_eq_quiet_iff.1
              (Registry.ignoresLogging_of_find?_builtin hfind s.settings log view)
            simp only [settings_relog, Outcome.onState, Outcome.map, Outcome.mapError, hresult,
              hstate]
            rfl

/-- What an iterator answers does not depend on logging. -/
theorem nextCluster_relog (log : Settings) (s : Session) (iterator : Nat) (rest : List Text) :
    (s.relog log).nextCluster iterator rest =
      (s.nextCluster iterator rest).onState (relog log) := by
  cases rest <;> rfl

/-- A step comes to the same however logging is set up. -/
theorem step_relog (log : Settings) (s : Session) (step : Step) :
    ((s.relog log).step step).quiet = ((s.step step).onState (relog log)).quiet := by
  cases step with
  | query handle query =>
      simp only [Session.step, views_relog]
      cases s.views[handle]? with
      | none => rfl
      | some view =>
          exact congrArg Outcome.quiet
            (answerQuery_relog log (s.memoizedIf query.needsClusters handle) view _ query)
  | derive handle derivation =>
      simp only [Session.step, views_relog, segmenter_relog]
      cases s.views[handle]? with
      | none => rfl
      | some view =>
          simp only
          cases deriveWindow s.segmenter view.window (view.clusters s.segmenter) derivation <;> rfl
  | chop handle chop =>
      simp only [Session.step, views_relog]
      cases s.views[handle]? with
      | none => rfl
      | some view => exact chopView_relog log (s.putView handle _) handle _ _ chop
  | iterate handle => rfl
  | next iterator =>
      simp only [Session.step, iterators_relog, views_relog]
      cases s.iterators[iterator]? with
      | none => rfl
      | some found =>
          cases found with
          | running rest => exact congrArg Outcome.quiet (nextCluster_relog log s iterator rest)
          | waiting origin =>
              simp only
              cases s.views[origin]? with
              | none => rfl
              | some view =>
                  exact congrArg Outcome.quiet
                    (nextCluster_relog log (s.memoizedIf true origin) iterator _)
  | selectSegmenter choice =>
      obtain ⟨hresult, hstate⟩ :=
        Outcome.quiet_eq_quiet_iff.1 (s.settings.selectSegmenter_relog log choice)
      simp only [Session.step, settings_relog, Outcome.onState, Outcome.map, Outcome.mapError,
        hresult, hstate]
      rfl

/-- A run comes to the same results and errors however logging is set up. -/
theorem map_result_run_relog (log : Settings) (s : Session) (steps : List Step) :
    ((s.relog log).run steps).map Outcome.result = (s.run steps).map Outcome.result := by
  induction steps generalizing s with
  | nil => rfl
  | cons first later ih =>
      obtain ⟨hresult, hstate⟩ := Outcome.quiet_eq_quiet_iff.1 (step_relog log s first)
      rw [run, run, List.map_cons, List.map_cons, hresult, hstate]
      exact congrArg (List.cons _) (ih (s.step first).state)

/-- A run comes to the same results and errors with memos and without. -/
theorem map_result_run_forget (hs : s.Honest) (steps : List Step) :
    (s.forget.run steps).map Outcome.result = (s.run steps).map Outcome.result := by
  have hforgotten : s.forget.Honest := by
    intro view hview
    obtain ⟨kept, -, rfl⟩ := List.mem_map.1 hview
    exact View.honest_forget kept
  -- both runs come to what the run without memos comes to, up to the memos that they leave
  have hsame : (s.forget.run steps).map (·.onState forget) =
      (s.run steps).map (·.onState forget) := by
    rw [run_forget hforgotten, run_forget hs, forget_forget]
  have hresults := congrArg (List.map Outcome.result) hsame
  rwa [List.map_map, List.map_map] at hresults

/-- The views of a session without its memos are new views of its windows. -/
theorem views_forget (s : Session) : s.forget.views = s.windows.map View.ofWindow := by
  rw [windows, List.map_map]
  rfl

/-- Sessions with the same windows, the same iterators and the same segmenter come to the same
results and errors in every run, if their memos are honest. -/
theorem map_result_run_eq (hs : s.Honest) (ht : t.Honest) (hwindows : t.windows = s.windows)
    (hiterators : t.iterators = s.iterators) (hsegmenter : t.segmenter = s.segmenter)
    (steps : List Step) : (t.run steps).map Outcome.result = (s.run steps).map Outcome.result := by
  have hviews : t.forget.views = s.forget.views := by
    rw [views_forget, views_forget, hwindows]
  have hsettings : t.settings = s.settings.relog t.settings := by
    have hsame : s.settings.segmenter = t.settings.segmenter := hsegmenter.symm
    rw [Settings.relog, hsame]
  have hforget : t.forget = s.forget.relog t.settings := by
    calc t.forget = ⟨t.settings, t.forget.views, t.iterators⟩ := rfl
      _ = ⟨s.settings.relog t.settings, s.forget.views, s.iterators⟩ := by
          rw [hviews, hiterators, ← hsettings]
      _ = s.forget.relog t.settings := rfl
  rw [← map_result_run_forget ht, hforget, map_result_run_relog, map_result_run_forget hs]

end Session

end TextCursor
