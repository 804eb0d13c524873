import TextCursor.Proofs.Extraction.Chopper
import TextCursor.Proofs.Session.Chops

/-!
# The windows of a session

A session whose views are valid windows of one source keeps that through every step, and the window
of each of its views only ever shrinks (`Session.step_evolves`, `Session.after_evolves`). No step
checks any of this: it follows from the offsets at which the operations cut. A view that a step
makes lies inside the view that it was made from, unless it was given by its bounds.
-/

namespace TextCursor

/-- The handle and the window of the new view that an answer tells of. -/
def Answer.made? : Answer → Option (Nat × Window)
  | .view handle window => some (handle, window)
  | .found answer => answer.made?
  | .value _ | .notFound => none

/-- A step that gives the bounds of a new view keeps them inside the source. -/
def Step.WithinContract (source : Text) : Step → Prop
  | .derive _ (.parts start size) => (Window.mk source start size).Fits
  | _ => True

/-- The step works on the view under this handle and does not make a view from bounds. -/
def Step.WorksWithin (handle : Nat) : Step → Prop
  | .derive _ (.parts _ _) => False
  | .query view _ | .derive view _ | .chop view _ => view = handle
  | _ => False

namespace Session

/-- Every view is valid and shows the source. -/
def Valid (source : Text) (s : Session) : Prop :=
  ∀ view ∈ s.views, view.window.source = source ∧ view.Valid

/-- Every view of the one session is there in the other one, where its window lies inside the
window that it has here. -/
def ShrinksTo (s t : Session) : Prop :=
  ∀ (handle : Nat) (view : View), s.views[handle]? = some view →
    ∃ later, t.views[handle]? = some later ∧ later.window.Inside view.window

/-- The other session is one of valid views of the source, into which the views of this one may
have moved. -/
structure Evolves (source : Text) (s t : Session) : Prop where
  valid : t.Valid source
  shrinks : s.ShrinksTo t

variable {source : Text} {s t : Session} {handle : Nat} {view : View}

/-- A session of valid views has evolved into any session with the same views. -/
theorem Evolves.of_views_eq (hs : s.Valid source) (h : t.views = s.views) : Evolves source s t where
  valid := by
    rw [Valid, h]
    exact hs
  shrinks := by
    intro handle view hview
    exact ⟨view, by rw [h, hview], .refl _⟩

/-- A session of valid views has evolved into itself. -/
theorem Evolves.refl (hs : s.Valid source) : Evolves source s s :=
  .of_views_eq hs rfl

/-- What has come of a session that has come of another one has come of that one. -/
theorem Evolves.trans {u : Session} (h : Evolves source s t) (h' : Evolves source t u) :
    Evolves source s u where
  valid := h'.valid
  shrinks := by
    intro handle view hview
    obtain ⟨middle, hmiddle, hinside⟩ := h.shrinks handle view hview
    obtain ⟨later, hlater, hinside'⟩ := h'.shrinks handle middle hmiddle
    exact ⟨later, hlater, hinside'.trans hinside⟩

/-- A view under a handle of a session of valid views is valid and shows the source. -/
theorem Valid.of_handle (hs : s.Valid source) (hview : s.views[handle]? = some view) :
    view.window.source = source ∧ view.Valid :=
  hs view (List.mem_of_getElem? hview)

/-- Putting a valid view in the place of one that it lies inside evolves the session. -/
theorem Evolves.putView (hs : s.Valid source) (hview : s.views[handle]? = some view) {moved : View}
    (hmoved : moved.Valid) (hinside : moved.window.Inside view.window) :
    Evolves source s (s.putView handle moved) where
  valid := by
    intro other hother
    rcases List.mem_or_eq_of_mem_set hother with hold | rfl
    · exact hs other hold
    · exact ⟨hinside.1.trans (hs.of_handle hview).1, hmoved⟩
  shrinks := by
    intro other old hold
    by_cases hsame : handle = other
    · subst hsame
      obtain rfl : view = old := Option.some.inj (hview.symm.trans hold)
      exact ⟨moved, getElem?_putView hview moved, hinside⟩
    · exact ⟨old, (getElem?_putView_of_ne hsame s moved).trans hold, .refl _⟩

/-- Adding a view of a window that fits the source evolves the session. -/
theorem Evolves.addView (hs : s.Valid source) {w : Window} (hsource : w.source = source)
    (hfits : w.Fits) : Evolves source s (s.addView w).2 where
  valid := by
    intro other hother
    rcases List.mem_append.1 hother with hold | hnew
    · exact hs other hold
    · obtain rfl := List.mem_singleton.1 hnew
      exact ⟨hsource, View.valid_ofWindow hfits⟩
  shrinks := by
    intro other old hold
    have hhandle := (List.getElem?_eq_some_iff.1 hold).1
    refine ⟨old, ?_, .refl _⟩
    show (s.views ++ [_])[other]? = some old
    rw [List.getElem?_append_left hhandle, hold]

/-- Memoizing a view where its clusters are needed is putting the memoized view in its place. -/
theorem memoizedIf_eq_putView (hview : s.views[handle]? = some view) (needed : Bool) :
    s.memoizedIf needed handle = s.putView handle (view.memoizeIf needed s.segmenter) := by
  have hviews : s.views.modify handle (·.memoizeIf needed s.segmenter) =
      s.views.set handle (view.memoizeIf needed s.segmenter) := by
    apply List.ext_getElem?
    intro other
    by_cases hsame : handle = other
    · subst hsame
      have hhandle := (List.getElem?_eq_some_iff.1 hview).1
      rw [List.getElem?_modify_eq, List.getElem?_set_self hhandle, hview]
      rfl
    · rw [List.getElem?_modify_ne _ _ hsame, List.getElem?_set_ne hsame]
  rw [memoizedIf, hviews, Session.putView]

/-- Memoizing a view where its clusters are needed evolves the session. -/
theorem Evolves.memoizedIf (hs : s.Valid source) (hview : s.views[handle]? = some view)
    (needed : Bool) : Evolves source s (s.memoizedIf needed handle) := by
  rw [memoizedIf_eq_putView hview]
  refine .putView hs hview ((hs.of_handle hview).2.memoizeIf needed _) ?_
  rw [View.window_memoizeIf]
  exact .refl _

/-- The cut that a chop makes of a valid view stays inside its window. -/
theorem cutOf?_inside (hvalid : view.Valid) {chop : Chop} {cut : Cut}
    (h : s.cutOf? view (s.segmenter.clusters view.text) chop = some cut) :
    cut.Inside view.window := by
  -- every cut is one off the front or off the back, and those are known to conserve the window
  have hfront : ∀ gap, s.gap? view chop = some gap → cut.Inside view.window := by
    intro gap hgap
    obtain ⟨other, hother, hconserves, -⟩ := exists_cut_of_gap hvalid hgap
    cases h.symm.trans hother
    exact hconserves.inside
  have hback : chop.AtBack → cut.Inside view.window := by
    intro hat
    obtain ⟨other, hother, hconserves, -⟩ := exists_cut_of_atBack hvalid hat
    cases h.symm.trans hother
    exact hconserves.inside
  cases chop with
  | first | «while» | through => exact hfront _ rfl
  | last | lastWhile => exact hback trivial
  | tryThrough delimiter =>
      have hoccurs := Window.isSome_chopThrough?_iff.1 (Option.isSome_iff_exists.2 ⟨cut, h⟩)
      exact hfront delimiter (if_pos hoccurs)
  | throughText operand =>
      obtain ⟨needle, hneedle, -⟩ := Option.map_eq_some_iff.1 h
      exact hfront _ (Option.map_eq_some_iff.2 ⟨needle, hneedle, rfl⟩)
  | number | chopper => cases h

/-- What a step that works on a view with this window comes to: the session evolves, and a view
that the answer tells of is there and lies inside the window. -/
structure ComesTo (source : Text) (s : Session) (w : Window) (reply : Reply) : Prop where
  evolves : Evolves source s reply.state
  made : ∀ answer other made, reply.result = .ok answer → answer.made? = some (other, made) →
    made.Inside w ∧ reply.state.views[other]?.map View.window = some made

/-- Where the answer tells of no view, it is enough that the session evolves. -/
theorem ComesTo.of_evolves {w : Window} {reply : Reply} (h : Evolves source s reply.state)
    (hnone : ∀ answer, reply.result = .ok answer → answer.made? = none) :
    ComesTo source s w reply where
  evolves := h
  made := by
    intro answer other made hanswer hmade
    rw [hnone answer hanswer] at hmade
    cases hmade

/-- What a step comes to is what it comes to for a session that has evolved into the one in which
it is taken. -/
theorem ComesTo.after {w : Window} {reply : Reply} (h : Evolves source s t)
    (hreply : ComesTo source t w reply) : ComesTo source s w reply where
  evolves := h.trans hreply.evolves
  made := hreply.made

/-- A step that answers no view, for a session that has evolved into the one it leaves. -/
theorem ComesTo.done (h : Evolves source s t) (w : Window) {answer : Answer}
    (hnone : answer.made? = none) : ComesTo source s w (.done answer t) := by
  refine .of_evolves h ?_
  intro other hother
  cases hother
  exact hnone

/-- A failed step, for a session that has evolved into the one it leaves. -/
theorem ComesTo.failed (h : Evolves source s t) (w : Window) (error : Error) :
    ComesTo source s w (.failed error t) := by
  refine .of_evolves h ?_
  intro answer hanswer
  cases hanswer

/-- A step that adds a view inside the window and tells of it, to a session that this one has
evolved into. -/
theorem ComesTo.addView (h : Evolves source s t) {w made : Window} (hsource : w.source = source)
    (hfits : w.Fits) (hinside : made.Inside w) {answer : Answer}
    (htells : answer.made? = some (t.views.length, made)) :
    ComesTo source s w (.done answer (t.addView made).2) where
  evolves := h.trans (.addView h.valid (hinside.1.trans hsource) (hinside.fits hfits))
  made := by
    intro answer other window hanswer hmade
    cases hanswer
    cases htells.symm.trans hmade
    refine ⟨hinside, ?_⟩
    show ((t.views ++ [_])[t.views.length]?).map View.window = some made
    rw [List.getElem?_append_right (Nat.le_refl _), Nat.sub_self]
    rfl

/-- The answer for a number tells of no view. -/
theorem made?_numberAnswer (number fallback : Option Datum) :
    (numberAnswer number fallback).made? = none := by
  cases fallback <;> cases number <;> rfl

/-- A chop that makes no cut answers the same whatever the view, makes no view and changes nothing,
unless it is one that reads a value. -/
theorem chopView_of_no_cut (chop : Chop) :
    (∃ result : Except Error Answer, (∀ answer, result = .ok answer → answer.made? = none) ∧
      ∀ (s : Session) (handle : Nat) (view : View) (clusters : List Text),
        s.cutOf? view clusters chop = none →
          s.chopView handle view clusters chop = ⟨result, s, []⟩) ∨
    (∃ kind fallback, chop = .number kind fallback) ∨ ∃ name, chop = .chopper name := by
  have hnone : ∀ answer, (.ok .notFound : Except Error Answer) = .ok answer →
      answer.made? = none := by
    intro answer hanswer
    cases hanswer
    rfl
  cases chop with
  | first | last | «while» | lastWhile | through =>
      refine .inl ⟨_, hnone, ?_⟩
      intro s handle view clusters hcut
      cases hcut
  | tryThrough delimiter =>
      refine .inl ⟨_, hnone, ?_⟩
      intro s handle view clusters hcut
      rw [cutOf?] at hcut
      simp only [chopView, chopView.through?, hcut]
      rfl
  | throughText operand =>
      refine .inl ⟨.error .noSuchHandle, ?_, ?_⟩
      · intro answer hanswer
        cases hanswer
      · intro s handle view clusters hcut
        rw [cutOf?, Option.map_eq_none_iff] at hcut
        simp only [chopView, withOperand, hcut]
        rfl
  | number kind fallback => exact .inr (.inl ⟨kind, fallback, rfl⟩)
  | chopper name => exact .inr (.inr ⟨name, rfl⟩)

/-- A chopped number moves the view behind its numeral or leaves the session as it was. -/
theorem chopView_number_comesTo (hs : s.Valid source) (hview : s.views[handle]? = some view)
    (clusters : List Text) (kind : NumberKind) (fallback : Option Datum) :
    ComesTo source s view.window (s.chopView handle view clusters (.number kind fallback)) := by
  have hvalid := (hs.of_handle hview).2
  simp only [chopView]
  cases hchop : view.chopNumber s.segmenter kind with
  | error fault => exact .failed (.refl hs) _ _
  | ok number =>
      cases number with
      | none => exact .done (.refl hs) _ (made?_numberAnswer _ _)
      | some reading =>
          obtain ⟨value, behind⟩ := reading
          obtain ⟨numeral, hscan, -, rfl⟩ := View.Honest.chopNumber_eq_some hvalid.honest hchop
          have hinside := Chopper.drop_numeral_inside hvalid hscan
          have hput := Evolves.putView hs hview (hvalid.move hinside) hinside
          exact .done hput _ (made?_numberAnswer _ _)

/-- A built-in chopper moves the view inside its window. -/
theorem chopView_chopper_comesTo (hs : s.Valid source) (hview : s.views[handle]? = some view)
    (clusters : List Text) (name : Text) :
    ComesTo source s view.window (s.chopView handle view clusters (.chopper name)) := by
  have hvalid := (hs.of_handle hview).2
  simp only [chopView]
  cases hfind : Registry.builtin.find? name with
  | none => exact .failed (.refl hs) _ _
  | some chopper =>
      obtain ⟨hmoved, hinside⟩ := Registry.shrinks_of_find?_builtin hfind s.settings view hvalid
      refine .of_evolves (.putView hs hview hmoved hinside) ?_
      intro answer hanswer
      simp only [Outcome.onState, Outcome.map, Outcome.mapError] at hanswer
      cases hresult : (chopper s.settings view).result with
      | error fault =>
          rw [hresult] at hanswer
          cases hanswer
      | ok value =>
          rw [hresult] at hanswer
          cases hanswer
          rfl

/-- A chop of a valid view evolves the session, and makes a view inside it or none. -/
theorem chopView_comesTo (hs : s.Valid source) (hview : s.views[handle]? = some view)
    (chop : Chop) :
    ComesTo source s view.window
      (s.chopView handle view (s.segmenter.clusters view.text) chop) := by
  obtain ⟨hsource, hvalid⟩ := hs.of_handle hview
  cases hcut : s.cutOf? view (s.segmenter.clusters view.text) chop with
  | some cut =>
      have hinside := cutOf?_inside hvalid hcut
      have hput := Evolves.putView hs hview (hvalid.move hinside.rest) hinside.rest
      rw [chopView_of_cut handle hcut]
      exact .addView hput hsource hvalid.fits hinside.removed (by cases chop <;> rfl)
  | none =>
      rcases chopView_of_no_cut chop with ⟨result, hnone, hmissed⟩ | ⟨kind, fallback, rfl⟩ |
        ⟨name, rfl⟩
      · rw [hmissed s handle view _ hcut]
        exact .of_evolves (.refl hs) hnone
      · exact chopView_number_comesTo hs hview _ kind fallback
      · exact chopView_chopper_comesTo hs hview _ name

/-- A derivation makes a window from its bounds or inside the window of the view. -/
theorem deriveWindow_cases (hvalid : view.Valid) {segmenter : Segmenter} {derivation : Derivation}
    {w : Window}
    (h : deriveWindow segmenter view.window (segmenter.clusters view.text) derivation = .ok w) :
    (∃ start size, derivation = .parts start size ∧ w = ⟨view.window.source, start, size⟩) ∨
      w.Inside view.window := by
  have hmade := Window.madeOf_clusters hvalid.fits segmenter
  cases derivation with
  | parts start size =>
      cases h
      exact .inl ⟨start, size, rfl, rfl⟩
  | copy =>
      cases h
      exact .inr (.refl _)
  | narrow start size =>
      cases h
      exact .inr (Window.narrow_inside _ _ _)
  | slice first last stepped =>
      cases stepped with
      | true => cases h
      | false =>
          cases h
          exact .inr (hmade.slice_inside first last)
  | trimStart =>
      cases h
      exact .inr (hmade.dropWhile_inside _)
  | trimEnd =>
      cases h
      exact .inr (hmade.dropLastWhile_inside _)
  | trim =>
      cases h
      exact .inr (hmade.trim_inside segmenter)
  | takeWhile test =>
      cases h
      exact .inr (Window.take_inside _ (hmade.extent_le (List.takeWhile_prefix test)))
  | takeLastWhile test =>
      cases h
      exact .inr (Window.drop_inside _ (hmade.extent_le (withoutLastWhile_isPrefix test _)))

/-- A question changes nothing and makes no view. -/
theorem answerQuery_changes_nothing (s : Session) (view : View) (clusters : List Text)
    (query : Query) :
    (s.answerQuery view clusters query).state = s ∧
      ∀ answer, (s.answerQuery view clusters query).result = .ok answer →
        answer.made? = none := by
  have hvalue : ∀ datum : Datum, (Outcome.done (.value datum) s : Reply).state = s ∧
      ∀ answer, (Outcome.done (.value datum) s : Reply).result = .ok answer →
        answer.made? = none := by
    intro datum
    refine ⟨rfl, ?_⟩
    intro answer hanswer
    cases hanswer
    rfl
  have hfailed : ∀ error : Error, (Outcome.failed error s : Reply).state = s ∧
      ∀ answer, (Outcome.failed error s : Reply).result = .ok answer → answer.made? = none := by
    intro error
    refine ⟨rfl, ?_⟩
    intro answer hanswer
    cases hanswer
  cases query with
  | source | start | size | text | clusterCount | isNonempty | description | clusters
  | hasCluster | clusterAt => exact hvalue _
  | indexOf operand | equals operand | equalsIgnoringCase operand | startsWith operand
  | endsWith operand =>
      simp only [answerQuery, withOperand]
      cases s.operandText? operand with
      | none => exact hfailed _
      | some text => exact hvalue _
  | isValue value | isNotValue value =>
      cases value with
      | none => exact hvalue _
      | some operand =>
          simp only [answerQuery, withOperand]
          cases s.operandText? operand with
          | none => exact hfailed _
          | some text => exact hvalue _
  | item index =>
      simp only [answerQuery]
      cases Window.item? clusters index with
      | none => exact hfailed _
      | some cluster => exact hvalue _
  | peekNumber kind fallback =>
      simp only [answerQuery]
      cases view.peekNumber s.segmenter kind with
      | error fault => exact hfailed _
      | ok number =>
          refine ⟨rfl, ?_⟩
          intro answer hanswer
          cases hanswer
          exact made?_numberAnswer _ _

/-- What a question about a view comes to. -/
theorem step_query_comesTo (hs : s.Valid source) (hview : s.views[handle]? = some view)
    (query : Query) : ComesTo source s view.window (s.step (.query handle query)) := by
  obtain ⟨hstate, hnone⟩ := answerQuery_changes_nothing (s.memoizedIf query.needsClusters handle)
    view (view.clusters s.segmenter) query
  simp only [step, hview]
  refine .of_evolves ?_ hnone
  rw [hstate]
  exact .memoizedIf hs hview _

/-- What a chop of a view comes to. -/
theorem step_chop_comesTo (hs : s.Valid source) (hview : s.views[handle]? = some view)
    (chop : Chop) : ComesTo source s view.window (s.step (.chop handle chop)) := by
  have hvalid := (hs.of_handle hview).2
  simp only [step, hview]
  -- the chop works on the view that may have been memoized, whose window and clusters are the same
  have hseen := hvalid.memoizeIf (chop.needsClusters s.segmenter) s.segmenter
  have hwindow := view.window_memoizeIf (chop.needsClusters s.segmenter) s.segmenter
  generalize view.memoizeIf (chop.needsClusters s.segmenter) s.segmenter = seen at hseen hwindow ⊢
  have hput := Evolves.putView hs hview hseen (hwindow ▸ .refl _)
  have hchop := chopView_comesTo hput.valid (getElem?_putView hview seen) chop
  rw [View.text, hwindow] at hchop
  rw [hvalid.clusters_eq]
  exact .after hput hchop

/-- What making a view from a view comes to, unless it is made from bounds. -/
theorem step_derive_comesTo (hs : s.Valid source) (hview : s.views[handle]? = some view)
    {derivation : Derivation} (hparts : ∀ start size, derivation ≠ .parts start size) :
    ComesTo source s view.window (s.step (.derive handle derivation)) := by
  obtain ⟨hsource, hvalid⟩ := hs.of_handle hview
  have hseen := Evolves.memoizedIf hs hview derivation.needsClusters
  simp only [step, hview]
  rw [hvalid.clusters_eq]
  cases hwindow : deriveWindow s.segmenter view.window (s.segmenter.clusters view.text)
      derivation with
  | error error => exact .failed hseen _ _
  | ok w =>
      rcases deriveWindow_cases hvalid hwindow with ⟨start, size, rfl, -⟩ | hinside
      · exact absurd rfl (hparts start size)
      · exact .addView hseen hsource hvalid.fits hinside rfl

/-- What making a view from bounds comes to, when these are inside the source. -/
theorem step_parts_evolves (hs : s.Valid source) {start size : Nat}
    (hfits : (Window.mk source start size).Fits) :
    Evolves source s (s.step (.derive handle (.parts start size))).state := by
  simp only [step]
  cases hview : s.views[handle]? with
  | none => exact .refl hs
  | some view =>
      have hseen := Evolves.memoizedIf hs hview (Derivation.needsClusters (.parts start size))
      obtain ⟨hsource, -⟩ := hs.of_handle hview
      refine hseen.trans (.addView hseen.valid hsource ?_)
      rw [hsource]
      exact hfits

/-- Asking an iterator for a cluster leaves the views where they are. -/
theorem step_next_evolves (hs : s.Valid source) (iterator : Nat) :
    Evolves source s (s.step (.next iterator)).state := by
  have hviews : ∀ (t : Session) (rest : List Text),
      (t.nextCluster iterator rest).state.views = t.views := by
    intro t rest
    cases rest <;> rfl
  simp only [step]
  cases s.iterators[iterator]? with
  | none => exact .refl hs
  | some found =>
      cases found with
      | running rest => exact .of_views_eq hs (hviews s rest)
      | waiting origin =>
          cases hview : s.views[origin]? with
          | none => simpa only [hview] using .refl hs
          | some view =>
              have hseen := Evolves.memoizedIf hs hview true
              simpa only [hview] using hseen.trans (.of_views_eq hseen.valid (hviews _ _))

/-- Every step evolves a session of valid views. -/
theorem step_evolves (hs : s.Valid source) {step : Step} (hcontract : step.WithinContract source) :
    Evolves source s (s.step step).state := by
  cases step with
  | query handle query =>
      cases hview : s.views[handle]? with
      | none => simpa only [Session.step, hview] using .refl hs
      | some view => exact (step_query_comesTo hs hview query).evolves
  | derive handle derivation =>
      cases hview : s.views[handle]? with
      | none => simpa only [Session.step, hview] using .refl hs
      | some view =>
          cases derivation with
          | parts start size => exact step_parts_evolves hs hcontract
          | copy | narrow | slice | trimStart | trimEnd | trim | takeWhile | takeLastWhile =>
              exact (step_derive_comesTo hs hview (by intro start size h; cases h)).evolves
  | chop handle chop =>
      cases hview : s.views[handle]? with
      | none => simpa only [Session.step, hview] using .refl hs
      | some view => exact (step_chop_comesTo hs hview chop).evolves
  | iterate handle => exact .of_views_eq hs rfl
  | next iterator => exact step_next_evolves hs iterator
  | selectSegmenter choice => exact .of_views_eq hs rfl

/-- Every run of steps evolves a session of valid views. -/
theorem after_evolves (hs : s.Valid source) (steps : List Step)
    (hcontract : ∀ step ∈ steps, step.WithinContract source) :
    Evolves source s (s.after steps) := by
  -- the session that the first step leaves is one of valid views, and `later` starts from there
  induction steps generalizing s with
  | nil => exact .refl hs
  | cons first later ih =>
      have hfirst := step_evolves hs (hcontract first List.mem_cons_self)
      exact hfirst.trans (ih hfirst.valid fun step hstep =>
        hcontract step (List.mem_cons_of_mem _ hstep))

/-- What a step comes to that works on a view and does not make one from bounds. -/
theorem step_comesTo (hs : s.Valid source) (hview : s.views[handle]? = some view) {step : Step}
    (hstep : step.WorksWithin handle) : ComesTo source s view.window (s.step step) := by
  cases step with
  | query other query =>
      obtain rfl : other = handle := hstep
      exact step_query_comesTo hs hview query
  | derive other derivation =>
      cases derivation with
      | parts => cases hstep
      | copy | narrow | slice | trimStart | trimEnd | trim | takeWhile | takeLastWhile =>
          obtain rfl : other = handle := hstep
          exact step_derive_comesTo hs hview (by intro start size h; cases h)
  | chop other chop =>
      obtain rfl : other = handle := hstep
      exact step_chop_comesTo hs hview chop
  | iterate | next | selectSegmenter => cases hstep

end Session

/-- A window with which a session may begin: given by bounds of any kind, which are brought into
range, or by bounds that are in range. -/
inductive Window.BuiltOn (source : Text) : Window → Prop where
  | narrowed (start : Int) (size : Option Int) :
      Window.BuiltOn source ((Window.ofText source).narrow start size)
  | parts (start size : Nat) (h : (Window.mk source start size).Fits) :
      Window.BuiltOn source ⟨source, start, size⟩

namespace Session

/-- A session that begins with one view is one of valid views. -/
theorem valid_start {source : Text} {w : Window} (hw : w.BuiltOn source) (settings : Settings) :
    (start settings w).Valid source := by
  intro view hview
  obtain rfl := List.mem_singleton.1 hview
  cases hw with
  | narrowed start size =>
      have hinside := (Window.ofText source).narrow_inside start size
      exact ⟨hinside.1, View.valid_ofWindow (hinside.fits (View.valid_ofText source).fits)⟩
  | parts start size hfits => exact ⟨rfl, View.valid_ofWindow hfits⟩

/-- Windows over a whole run. Whatever steps a session has gone through, each of its views is a
window of the one source, between its two ends; a view that the next step makes lies inside the
view that it works on, unless it is made from bounds; and whatever steps follow, each view stays in
the session and inside the window that it has now. Only the steps that make a view from bounds are
asked to keep to the source. -/
theorem after_keeps_windows {source : Text} {w : Window} (hw : w.BuiltOn source)
    (settings : Settings) (earlier later : List Step)
    (hcontract : ∀ step ∈ earlier ++ later, step.WithinContract source) :
    (∀ view ∈ ((start settings w).after earlier).views,
      view.window.source = source ∧ view.window.Fits) ∧
    (∀ (handle : Nat) (view : View) step answer other made,
      ((start settings w).after earlier).views[handle]? = some view →
      step.WorksWithin handle →
      (((start settings w).after earlier).step step).result = .ok answer →
      answer.made? = some (other, made) →
      made.Inside view.window ∧
        (((start settings w).after earlier).step step).state.views[other]?.map View.window =
          some made) ∧
    (∀ (handle : Nat) (view : View),
      ((start settings w).after earlier).views[handle]? = some view →
      ∃ moved : View, (((start settings w).after earlier).after later).views[handle]? = some moved ∧
        moved.window.Inside view.window) := by
  have hearlier := after_evolves (valid_start hw settings) earlier fun step hstep =>
    hcontract step (List.mem_append_left _ hstep)
  have hlater := after_evolves hearlier.valid later fun step hstep =>
    hcontract step (List.mem_append_right _ hstep)
  refine ⟨?_, ?_, hlater.shrinks⟩
  · intro view hview
    obtain ⟨hsource, hvalid⟩ := hearlier.valid view hview
    exact ⟨hsource, hvalid.fits⟩
  · intro handle view step answer other made hview hstep hanswer hmade
    exact (step_comesTo hearlier.valid hview hstep).made answer other made hanswer hmade

/-- A session that begins far in front of its source, goes on to take a slice that counts from the
end, and ends with more characters chopped off than there are. -/
theorem after_keeps_windows_beyond_bounds :
    let source := ['a', '🇩', '🇪', ',', ' ', 'b']
    let w := (Window.ofText source).narrow (-300) none
    let earlier : List Step := [.chop 0 (.first 1), .derive 0 (.parts 1 2)]
    let later : List Step := [.chop 0 (.last 100000000000000000000)]
    let s := (start {} w).after earlier
    w.BuiltOn source ∧ (∀ step ∈ earlier ++ later, step.WithinContract source) ∧
      (∀ view ∈ s.views, view.window.source = source ∧ view.window.Fits) ∧
      (s.views[0]?.map View.window = some ⟨source, 1, 5⟩ ∧
        (s.step (.derive 0 (.slice (some (-2)) none false))).result =
          .ok (.view 3 ⟨source, 4, 2⟩) ∧
        (Window.mk source 4 2).Inside ⟨source, 1, 5⟩) ∧
      ∃ moved : View, (s.after later).views[0]? = some moved ∧
        moved.window.Inside ⟨source, 1, 5⟩ := by
  intro source w earlier later s
  have hw : w.BuiltOn source := .narrowed (-300) none
  have hcontract : ∀ step ∈ earlier ++ later, step.WithinContract source := by
    intro step hstep
    rcases List.mem_cons.1 hstep with rfl | hstep
    · trivial
    · rcases List.mem_cons.1 hstep with rfl | hstep
      · show 1 + 2 ≤ source.length
        decide
      · obtain rfl := List.mem_singleton.1 hstep
        trivial
  obtain ⟨hviews, hmade, hmoved⟩ := after_keeps_windows hw {} earlier later hcontract
  have hfirst : s.views[0]?.map View.window = some ⟨source, 1, 5⟩ := by decide
  obtain ⟨view, hview, hwindow⟩ := Option.map_eq_some_iff.1 hfirst
  have hslice : (s.step (.derive 0 (.slice (some (-2)) none false))).result =
      .ok (.view 3 ⟨source, 4, 2⟩) := by cbv
  obtain ⟨hinside, -⟩ :=
    hmade 0 view (.derive 0 (.slice (some (-2)) none false)) _ _ _ hview rfl hslice rfl
  obtain ⟨moved, hlater, hshrunk⟩ := hmoved 0 view hview
  rw [hwindow] at hinside hshrunk
  exact ⟨hw, hcontract, hviews, ⟨hfirst, hslice, hinside⟩, moved, hlater, hshrunk⟩

end Session

end TextCursor
