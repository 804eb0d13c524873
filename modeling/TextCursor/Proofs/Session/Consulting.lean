import TextCursor.Proofs.Session.Frame

/-!
# Steps that consult the clusters of a view

Only some steps consult the clusters of the view they work on. The others come to the same whatever
the memos hold, be it wrong (`Session.run_of_unconsulted`), and leave every memo as it was, also
when the window moves and another segmenter is in force (`Session.after_keepsMemo`). So a memo
decides nothing where it is not consulted, and is replaced nowhere else.
-/

namespace TextCursor

/-- Whether the step may consult the clusters of the view under this handle. A chopper sees to them
itself, and an iterator may be one over that view. -/
def Step.consults (segmenter : Segmenter) (handle : Nat) : Step → Bool
  | .query view question => view = handle ∧ question.needsClusters
  | .derive view derivation => view = handle ∧ derivation.needsClusters
  | .chop view (.chopper _) => view = handle
  | .chop view removal => view = handle ∧ removal.needsClusters segmenter
  | .next _ => true
  | .iterate _ | .selectSegmenter _ => false

/-- A chop that does not consult the clusters of the view it works on needs none, and is not that of
a chopper. -/
theorem Step.unneeded_of_consults_chop {segmenter : Segmenter} {handle other : Nat} {removal : Chop}
    (h : (Step.chop other removal).consults segmenter handle = false) (hsame : other = handle) :
    removal.needsClusters segmenter = false ∧ ∀ name, removal ≠ .chopper name := by
  cases removal with
  | chopper name => simp [Step.consults, hsame] at h
  | _ => simpa [Step.consults, hsame] using h

/-- A delimiter of no clusters is found at the front, whatever the clusters of the window. -/
theorem Window.chopThrough?_of_no_clusters {segmenter : Segmenter} {delimiter : Text}
    (h : segmenter.clusters delimiter = []) (w : Window) (clusters : List Text) :
    w.chopThrough? clusters (segmenter.clusters delimiter).length delimiter =
      some (.front w 0 0) := by
  obtain rfl : delimiter = [] := by rw [← segmenter.flatten_clusters delimiter, h, List.flatten_nil]
  rw [h]
  cases clusters <;> rfl

/-- Where no clusters are needed a view keeps its memo. -/
@[simp] theorem View.memoizeIf_false (v : View) (segmenter : Segmenter) :
    v.memoizeIf false segmenter = v := rfl

namespace Session

/-- The view under the handle is there in both sessions, with the same memo. -/
def KeepsMemo (handle : Nat) (s t : Session) : Prop :=
  ∀ view, s.views[handle]? = some view →
    ∃ later, t.views[handle]? = some later ∧ later.memo = view.memo

variable {s t : Session} {handle : Nat} {view : View}

/-- Where no clusters are needed no memo is made. -/
@[simp] theorem memoizedIf_false (s : Session) (handle : Nat) : s.memoizedIf false handle = s := by
  have hviews : s.views.modify handle (fun view => view.memoizeIf false s.segmenter) = s.views :=
    List.modify_id handle s.views
  rw [memoizedIf, hviews]

/-- The answer to a question that needs no clusters depends neither on them nor on the memo. -/
theorem answerQuery_of_unneeded (s : Session) (view : View) {query : Query}
    (h : query.needsClusters = false) (clusters other : List Text) :
    s.answerQuery view clusters query = s.answerQuery view.forget other query := by
  cases query with
  | clusterCount | clusters | hasCluster | clusterAt | item | peekNumber => cases h
  | source | start | size | text | isNonempty | description | indexOf | equals
  | equalsIgnoringCase | startsWith | endsWith => rfl
  | isValue value | isNotValue value => cases value <;> rfl

/-- The window that a derivation makes does not depend on clusters that it does not need. -/
theorem deriveWindow_of_unneeded {derivation : Derivation} (h : derivation.needsClusters = false)
    (segmenter : Segmenter) (w : Window) (clusters other : List Text) :
    deriveWindow segmenter w clusters derivation = deriveWindow segmenter w other derivation := by
  cases derivation with
  | slice | trimStart | trimEnd | trim | takeWhile | takeLastWhile => cases h
  | copy | narrow | parts => rfl

/-- The cut that a chop makes does not depend on clusters that it does not need. -/
theorem cutOf?_of_unneeded (s : Session) (view : View) {chop : Chop}
    (h : chop.needsClusters s.segmenter = false) (clusters other : List Text) :
    s.cutOf? view clusters chop = s.cutOf? view other chop := by
  cases chop with
  | first count | last count =>
      have hcount : count ≤ 0 := Int.not_lt.1 (of_decide_eq_false h)
      simp only [cutOf?, Window.chopFirst, Window.chopLast, if_pos hcount,
        Int.toNat_of_nonpos hcount, List.take_zero]
  | through delimiter | tryThrough delimiter =>
      have hnone : s.segmenter.clusters delimiter = [] := not_not.1 (of_decide_eq_false h)
      simp only [cutOf?, Window.chopThrough?_of_no_clusters hnone]
  | «while» | lastWhile | number => cases h
  | throughText | chopper => rfl

/-- A step that consults no clusters comes to the same whatever the memos hold. -/
theorem step_of_unconsulted {step : Step}
    (h : ∀ handle, step.consults s.segmenter handle = false) :
    (s.step step).onState forget = (s.forget.step step).onState forget := by
  cases step with
  | query handle query =>
      have hneeds : query.needsClusters = false := by
        simpa [Step.consults] using h handle
      cases hget : s.views[handle]? with
      | none => simp [Session.step, hget, Outcome.onState, Outcome.failed]
      | some view =>
          have hforget : s.forget.views[handle]? = some view.forget := by
            rw [getElem?_forget, hget, Option.map_some]
          have hsame := answerQuery_of_unneeded s view hneeds
            (view.clusters s.segmenter) (view.forget.clusters s.segmenter)
          simp only [Session.step, hget, hforget, hneeds, memoizedIf_false, segmenter_forget, hsame]
          rw [answerQuery_forget (View.honest_forget view),
            answerQuery_forget (View.honest_forget view), forget_forget]
  | derive handle derivation =>
      have hneeds : derivation.needsClusters = false := by
        simpa [Step.consults] using h handle
      cases hget : s.views[handle]? with
      | none => simp [Session.step, hget, Outcome.onState, Outcome.failed]
      | some view =>
          have hforget : s.forget.views[handle]? = some view.forget := by
            rw [getElem?_forget, hget, Option.map_some]
          have hsame := deriveWindow_of_unneeded hneeds s.segmenter view.window
            (view.clusters s.segmenter) (view.forget.clusters s.segmenter)
          simp only [Session.step, hget, hforget, hneeds, memoizedIf_false, segmenter_forget,
            View.window_forget, hsame]
          cases deriveWindow s.segmenter view.window (view.forget.clusters s.segmenter)
              derivation with
          | error error => simp [Outcome.onState, Outcome.failed]
          | ok w => simp [Outcome.onState, Outcome.done]
  | chop handle chop =>
      obtain ⟨hneeds, hchopper⟩ := Step.unneeded_of_consults_chop (h handle) rfl
      have hnumber : ∀ kind fallback, chop ≠ .number kind fallback := by
        rintro kind fallback rfl
        cases hneeds
      cases hget : s.views[handle]? with
      | none => simp [Session.step, hget, Outcome.onState, Outcome.failed]
      | some view =>
          have hforget : s.forget.views[handle]? = some view.forget := by
            rw [getElem?_forget, hget, Option.map_some]
          have hcuts := (cutOf?_forget (s.putView handle view) view
            (view.forget.clusters s.segmenter) chop).trans
              (cutOf?_of_unneeded (s.putView handle view) view hneeds _ (view.clusters s.segmenter))
          have hsame := chopView_forget_of_cutOf? handle hcuts hnumber hchopper
          simp only [Session.step, hget, hforget, segmenter_forget, hneeds, View.memoizeIf_false,
            ← hsame, forget_putView]
  | iterate handle => simp [Session.step, Outcome.onState, Outcome.done, forget]
  | next iterator => cases h 0
  | selectSegmenter choice =>
      simp [Session.step, Outcome.onState, Outcome.map, Outcome.mapError, forget]

/-- Sessions that differ in nothing but their memos, which may be wrong, come to the same in every
run of steps that consult no clusters. -/
theorem run_of_unconsulted {steps : List Step} (hsame : s.forget = t.forget)
    (h : ∀ step ∈ steps, ∀ segmenter handle, step.consults segmenter handle = false) :
    (s.run steps).map (·.onState forget) = (t.run steps).map (·.onState forget) := by
  induction steps generalizing s t with
  | nil => rfl
  | cons first later ih =>
      obtain ⟨hfirst, hlater⟩ := List.forall_mem_cons.1 h
      have hreply : (s.step first).onState forget = (t.step first).onState forget := by
        rw [step_of_unconsulted (hfirst s.segmenter), hsame,
          ← step_of_unconsulted (hfirst t.segmenter)]
      have hstate : (s.step first).state.forget = (t.step first).state.forget :=
        congrArg Outcome.state hreply
      rw [run, run, List.map_cons, List.map_cons, hreply, ih hstate hlater]

/-- A session keeps its own memos. -/
theorem KeepsMemo.refl (handle : Nat) (s : Session) : KeepsMemo handle s s :=
  fun view hview => ⟨view, hview, rfl⟩

/-- Memos that are kept twice are kept. -/
theorem KeepsMemo.trans {u : Session} (h : KeepsMemo handle s t) (h' : KeepsMemo handle t u) :
    KeepsMemo handle s u := by
  intro view hview
  obtain ⟨middle, hmiddle, hsame⟩ := h view hview
  obtain ⟨later, hlater, hsame'⟩ := h' middle hmiddle
  exact ⟨later, hlater, hsame'.trans hsame⟩

/-- The memo under a handle is kept when a view is put under another handle, or one with the same
memo under this one. -/
theorem KeepsMemo.putView {other : Nat} (hview : s.views[other]? = some view) {moved : View}
    (h : other = handle → moved.memo = view.memo) : KeepsMemo handle s (s.putView other moved) := by
  intro old hold
  by_cases hsame : other = handle
  · subst hsame
    cases hview.symm.trans hold
    exact ⟨moved, getElem?_putView hview moved, h rfl⟩
  · exact ⟨old, (getElem?_putView_of_ne hsame s moved).trans hold, rfl⟩

/-- A new view leaves the memos of the others. -/
theorem KeepsMemo.addView (handle : Nat) (s : Session) (w : Window) :
    KeepsMemo handle s (s.addView w).2 := by
  intro view hview
  refine ⟨view, ?_, rfl⟩
  rw [← hview]
  exact List.getElem?_append_left (List.getElem?_eq_some_iff.1 hview).1

/-- Memoizing a view keeps the memos of the others, and that of the view where it does not need its
clusters. -/
theorem KeepsMemo.memoizedIf {other : Nat} (hview : s.views[other]? = some view) {needed : Bool}
    (h : other = handle → needed = false) : KeepsMemo handle s (s.memoizedIf needed other) := by
  rw [memoizedIf_eq_putView hview]
  refine .putView hview ?_
  intro hsame
  rw [h hsame]
  rfl

/-- What a chop does once the memos are made touches no memo, but where it is that of a chopper. -/
theorem chopView_keepsMemo {other : Nat} (hview : s.views[other]? = some view)
    (clusters : List Text) {chop : Chop} (h : other = handle → ∀ name, chop ≠ .chopper name) :
    KeepsMemo handle s (s.chopView other view clusters chop).state := by
  cases hcut : s.cutOf? view clusters chop with
  | some cut =>
      rw [chopView_of_cut other hcut]
      have hput : KeepsMemo handle s (s.putView other (view.follow cut)) :=
        .putView hview fun _ => rfl
      exact hput.trans (.addView handle _ cut.removed)
  | none =>
      rcases chopView_of_no_cut chop with ⟨result, -, hmissed⟩ | ⟨kind, fallback, rfl⟩ | ⟨name, rfl⟩
      · rw [hmissed s other view clusters hcut]
        exact .refl handle s
      · simp only [chopView, View.chopNumber]
        cases view.window.readNumber (view.clusters s.segmenter) kind with
        | error fault => exact .refl handle s
        | ok found =>
            cases found with
            | none => exact .refl handle s
            | some reading => exact .putView hview fun _ => rfl
      · simp only [chopView]
        cases Registry.builtin.find? name with
        | none => exact .refl handle s
        | some chopper => exact .putView hview fun hsame => absurd rfl (h hsame name)

/-- A step that does not consult the clusters of a view keeps its memo. -/
theorem step_keepsMemo {step : Step} (h : step.consults s.segmenter handle = false) :
    KeepsMemo handle s (s.step step).state := by
  cases step with
  | query other query =>
      have hneeds : other = handle → query.needsClusters = false := by
        simpa [Step.consults] using h
      simp only [Session.step]
      cases hview : s.views[other]? with
      | none => exact .refl handle s
      | some view =>
          simp only [(answerQuery_changes_nothing _ _ _ _).1]
          exact .memoizedIf hview hneeds
  | derive other derivation =>
      have hneeds : other = handle → derivation.needsClusters = false := by
        simpa [Step.consults] using h
      simp only [Session.step]
      cases hview : s.views[other]? with
      | none => exact .refl handle s
      | some view =>
          have hseen := KeepsMemo.memoizedIf hview hneeds
          simp only
          cases deriveWindow s.segmenter view.window (view.clusters s.segmenter) derivation with
          | error error => exact hseen
          | ok w => exact hseen.trans (.addView handle _ w)
  | chop other chop =>
      have hneeds := Step.unneeded_of_consults_chop h
      simp only [Session.step]
      cases hview : s.views[other]? with
      | none => exact .refl handle s
      | some view =>
          simp only
          have hseen : other = handle →
              (view.memoizeIf (chop.needsClusters s.segmenter) s.segmenter).memo = view.memo := by
            intro hsame
            rw [(hneeds hsame).1]
            rfl
          generalize view.memoizeIf (chop.needsClusters s.segmenter) s.segmenter = seen at hseen
          exact (KeepsMemo.putView hview hseen).trans
            (chopView_keepsMemo (getElem?_putView hview seen) _ fun hsame => (hneeds hsame).2)
  | iterate other => exact .refl handle s
  | next iterator => cases h
  | selectSegmenter choice => exact .refl handle s

/-- A memo outlives every run of steps that do not consult the clusters of its view, whatever they
move and whichever segmenters they choose. -/
theorem after_keepsMemo (s : Session) {steps : List Step}
    (h : ∀ step ∈ steps, ∀ segmenter, step.consults segmenter handle = false) :
    KeepsMemo handle s (s.after steps) := by
  induction steps generalizing s with
  | nil => exact .refl handle s
  | cons first later ih =>
      obtain ⟨hfirst, hlater⟩ := List.forall_mem_cons.1 h
      exact (step_keepsMemo (hfirst s.segmenter)).trans (ih _ hlater)

end Session

end TextCursor
