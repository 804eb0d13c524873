import TextCursor.Proofs.Session.Frame

/-!
# Iterators are snapshots

An iterator takes the clusters of its view when it is first asked for one, and hands them out one by
one, whatever else happens to the session. A step that asks another iterator, or none, leaves it as
it is (`Session.step_keeps_iterator`), and a step that asks it takes one cluster off what it has
left (`Session.step_next_running`). By induction over the steps, its answers are then the clusters
that it had to begin with, and after those nothing (`Session.answersTo_running`).
`Session.iterator_is_snapshot` is this for iterators from when they are made.
-/

namespace TextCursor

/-- The step asks this iterator for a cluster. -/
def Step.Asks (iterator : Nat) : Step → Prop
  | .next other => other = iterator
  | _ => False

/-- Which iterator a step asks can be read off it. -/
instance (iterator : Nat) : DecidablePred (Step.Asks iterator)
  | .next other => inferInstanceAs (Decidable (other = iterator))
  | .query _ _ | .derive _ _ | .chop _ _ | .iterate _ | .selectSegmenter _ => .isFalse id

/-- The steps that ask an iterator are those for its next cluster. -/
theorem Step.asks_iff {iterator : Nat} {step : Step} :
    step.Asks iterator ↔ step = .next iterator := by
  cases step <;> simp [Asks]

namespace Session

/-- The text that an iterator hands out with an answer: none where it is at its end. -/
def yieldedText : Except Error Answer → Text
  | .ok (.value (.text text)) => text
  | _ => []

/-- The results, in order, of the steps of a run that ask an iterator. -/
def answersTo (s : Session) (iterator : Nat) (steps : List Step) : List (Except Error Answer) :=
  ((steps.zip (s.run steps)).filter fun pair => pair.1.Asks iterator).map (·.2.result)

variable {s : Session} {iterator : Nat} {found : ClusterIterator} {rest : List Text} {step : Step}

/-- A step that asks the iterator gives the first of its answers. -/
theorem answersTo_cons_of_asks (h : step.Asks iterator) (later : List Step) :
    s.answersTo iterator (step :: later) =
      (s.step step).result :: (s.step step).state.answersTo iterator later := by
  rw [answersTo, run, List.zip_cons_cons, List.filter_cons_of_pos (by simpa), List.map_cons]
  rfl

/-- A step that does not ask the iterator gives none of its answers. -/
theorem answersTo_cons_of_not_asks (h : ¬ step.Asks iterator) (later : List Step) :
    s.answersTo iterator (step :: later) = (s.step step).state.answersTo iterator later := by
  rw [answersTo, run, List.zip_cons_cons, List.filter_cons_of_neg (by simpa)]
  rfl

/-- Taking something off a view is no concern of the iterators. -/
theorem iterators_chopView (s : Session) (handle : Nat) (view : View) (clusters : List Text)
    (chop : Chop) : (s.chopView handle view clusters chop).state.iterators = s.iterators := by
  cases hcut : s.cutOf? view clusters chop with
  | some cut =>
      rw [chopView_of_cut handle hcut]
      rfl
  | none =>
      rcases chopView_of_no_cut chop with ⟨result, -, hmissed⟩ | ⟨kind, fallback, rfl⟩ | ⟨name, rfl⟩
      · rw [hmissed s handle view clusters hcut]
      · simp only [chopView]
        cases view.chopNumber s.segmenter kind with
        | error fault => rfl
        | ok number => cases number <;> rfl
      · simp only [chopView]
        cases Registry.builtin.find? name <;> rfl

/-- A step that does not ask an iterator leaves it as it is. -/
theorem step_keeps_iterator (hstep : ¬ step.Asks iterator)
    (h : s.iterators[iterator]? = some found) :
    (s.step step).state.iterators[iterator]? = some found := by
  have hother : ∀ (t : Session) (other : Nat) (rest : List Text), other ≠ iterator →
      t.iterators = s.iterators →
        (t.nextCluster other rest).state.iterators[iterator]? = some found := by
    intro t other rest hne hsame
    rw [nextCluster_eq, Outcome.done, List.getElem?_set_ne hne, hsame, h]
  cases step with
  | query handle query =>
      simp only [Session.step]
      cases s.views[handle]? with
      | none => exact h
      | some view =>
          simp only [(answerQuery_changes_nothing _ _ _ _).1]
          exact h
  | derive handle derivation =>
      simp only [Session.step]
      cases s.views[handle]? with
      | none => exact h
      | some view =>
          simp only
          cases deriveWindow s.segmenter view.window (view.clusters s.segmenter) derivation <;>
            exact h
  | chop handle chop =>
      simp only [Session.step]
      cases s.views[handle]? with
      | none => exact h
      | some view =>
          simp only [iterators_chopView]
          exact h
  | iterate handle =>
      have hthere := (List.getElem?_eq_some_iff.1 h).1
      exact (List.getElem?_append_left hthere).trans h
  | next other =>
      simp only [Session.step]
      cases s.iterators[other]? with
      | none => exact h
      | some asked =>
          cases asked with
          | running rest => exact hother s other rest hstep rfl
          | waiting origin =>
              simp only
              cases s.views[origin]? with
              | none => exact h
              | some view => exact hother (s.memoizedIf true origin) other _ hstep rfl
  | selectSegmenter choice => exact h

/-- Steps that do not ask an iterator leave it as it is. -/
theorem after_keeps_iterator {steps : List Step} (hsteps : ∀ step ∈ steps, ¬ step.Asks iterator)
    (h : s.iterators[iterator]? = some found) :
    (s.after steps).iterators[iterator]? = some found := by
  induction steps generalizing s with
  | nil => exact h
  | cons first later ih =>
      rw [List.forall_mem_cons] at hsteps
      exact ih hsteps.2 (step_keeps_iterator hsteps.1 h)

/-- An iterator that has begun answers the first of the clusters that it has left, and keeps the
others. -/
theorem step_next_running (h : s.iterators[iterator]? = some (.running rest)) :
    (s.step (.next iterator)).result = .ok (clusterAnswer rest.head?) ∧
      (s.step (.next iterator)).state.iterators[iterator]? = some (.running rest.tail) := by
  have hthere := (List.getElem?_eq_some_iff.1 h).1
  simp only [Session.step, h, nextCluster_eq, Outcome.done, true_and]
  exact List.getElem?_set_self hthere

/-- An iterator that is asked for the first time does as if it had the clusters that its view has
then, segmented as the session then does. -/
theorem step_next_waiting {origin : Nat} {view : View} (hs : s.Honest)
    (h : s.iterators[iterator]? = some (.waiting origin)) (hview : s.views[origin]? = some view) :
    (s.step (.next iterator)).result =
        .ok (clusterAnswer (s.segmenter.clusters view.text).head?) ∧
      (s.step (.next iterator)).state.iterators[iterator]? =
        some (.running (s.segmenter.clusters view.text).tail) := by
  have hthere := (List.getElem?_eq_some_iff.1 h).1
  have hclusters := (hs view (List.mem_of_getElem? hview)).clusters_eq s.segmenter
  simp only [Session.step, h, hview, hclusters, nextCluster_eq, Outcome.done, true_and]
  exact List.getElem?_set_self hthere

/-- What an iterator hands out step by step is what it has, in order. -/
theorem map_range_clusterAnswer (clusters : List Text) (count : Nat) :
    (List.range (count + 1)).map (fun k => Except.ok (clusterAnswer clusters[k]?)) =
      (Except.ok (clusterAnswer clusters.head?) : Except Error Answer) ::
        (List.range count).map (fun k => .ok (clusterAnswer clusters.tail[k]?)) := by
  simp [List.range_succ_eq_map, List.head?_eq_getElem?, Function.comp_def]

/-- An iterator that has begun answers the clusters that it has left, each time the next one, and
then that there are no more. The other steps of the run do not matter. -/
theorem answersTo_running (steps : List Step)
    (h : s.iterators[iterator]? = some (.running rest)) :
    s.answersTo iterator steps =
      (List.range (steps.countP (·.Asks iterator))).map fun k => .ok (clusterAnswer rest[k]?) := by
  induction steps generalizing s rest with
  | nil => rfl
  | cons first later ih =>
      by_cases hasks : first.Asks iterator
      · obtain rfl := Step.asks_iff.1 hasks
        obtain ⟨hanswer, hleft⟩ := step_next_running h
        rw [answersTo_cons_of_asks hasks, hanswer, ih hleft, List.countP_cons_of_pos (by simpa),
          map_range_clusterAnswer]
      · rw [answersTo_cons_of_not_asks hasks, ih (step_keeps_iterator hasks h),
          List.countP_cons_of_neg (by simpa)]

/-- From when it is first asked on, an iterator answers the clusters that its view has then. -/
theorem answersTo_waiting {origin : Nat} {view : View} (hs : s.Honest)
    (h : s.iterators[iterator]? = some (.waiting origin)) (hview : s.views[origin]? = some view)
    (later : List Step) :
    s.answersTo iterator (.next iterator :: later) =
      (List.range (later.countP (·.Asks iterator) + 1)).map fun k =>
        .ok (clusterAnswer (s.segmenter.clusters view.text)[k]?) := by
  obtain ⟨hanswer, hleft⟩ := step_next_waiting hs h hview
  rw [answersTo_cons_of_asks (Step.asks_iff.2 rfl), hanswer, answersTo_running later hleft,
    map_range_clusterAnswer]

/-- What has been handed out in so many answers is so many clusters, or all that there are. -/
theorem flatMap_yieldedText (clusters : List Text) (count : Nat) :
    ((List.range count).map fun k => Except.ok (clusterAnswer clusters[k]?)).flatMap yieldedText =
      (clusters.take count).flatten := by
  induction count with
  | zero => rfl
  | succ count ih =>
      have hlast : yieldedText (.ok (clusterAnswer clusters[count]?)) =
          clusters[count]?.toList.flatten := by
        cases clusters[count]? <;> simp [clusterAnswer, textAnswer, yieldedText]
      rw [List.range_succ, List.map_append, List.flatMap_append, ih, List.map_singleton,
        List.flatMap_singleton, hlast, List.take_add_one, List.flatten_append]

/-- An iterator is a snapshot of its view. In a session of new views that has gone through any
steps, make an iterator over one of the views, and let other steps follow that do not ask it; in the
session `first` that they leave, the iterator is asked for the first time, and among any further
steps as often as one likes. Then its answers are the clusters of the text that the view shows in
`first`, segmented by the segmenter in force there, each time the next one, and after the last one
that there are no more. Once it has come to the end, what it has handed out is that text. No session
has a window moved by asking an iterator. -/
theorem iterator_is_snapshot (settings : Settings) (windows : List Window)
    (earlier between later : List Step) (origin : Nat) :
    let made := (ofWindows settings windows).after earlier
    let iterator := made.iterators.length
    let first := made.after (.iterate origin :: between)
    let answers := first.answersTo iterator (.next iterator :: later)
    (made.step (.iterate origin)).result = .ok (intAnswer iterator) ∧
    (origin < made.views.length → (∀ step ∈ between, ¬ step.Asks iterator) →
      ∃ view clusters, first.views[origin]? = some view ∧
        clusters = first.segmenter.clusters view.text ∧
        answers.length = later.countP (·.Asks iterator) + 1 ∧
        (∀ k (h : k < answers.length), answers[k] = .ok (clusterAnswer clusters[k]?)) ∧
        (clusters.length ≤ answers.length → answers.flatMap yieldedText = view.text)) ∧
    ∀ (s : Session) (other : Nat), (s.step (.next other)).state.windows = s.windows := by
  intro made iterator first answers
  refine ⟨rfl, ?_, windows_step_next⟩
  intro horigin hbetween
  have hhonest : first.Honest :=
    after_honest (after_honest (honest_ofWindows settings windows) earlier) _
  have hnew : (made.step (.iterate origin)).state.iterators[iterator]? = some (.waiting origin) :=
    List.getElem?_concat_length
  have hwaiting : ((made.step (.iterate origin)).state.after between).iterators[iterator]? =
      some (.waiting origin) := after_keeps_iterator hbetween hnew
  obtain ⟨view, hview⟩ := exists_view_after (.iterate origin :: between) horigin
  have hanswers : answers = _ := answersTo_waiting hhonest hwaiting hview later
  refine ⟨view, _, hview, rfl, ?_, ?_, ?_⟩
  · rw [hanswers, List.length_map, List.length_range]
  · intro k hk
    simp only [hanswers, List.getElem_map, List.getElem_range]
  · intro hall
    rw [hanswers, List.length_map, List.length_range] at hall
    rw [hanswers, flatMap_yieldedText, List.take_of_length_le hall]
    exact ClusterRule.flatten_clusters _ _

/-- Two iterators over one view that are first asked before and after another segmenter is chosen,
with a chop in front of both and one in between. -/
theorem iterator_is_snapshot_two_iterators :
    let made := (ofWindows {} [.ofText ['>', '🇩', '🇪', ',']]).after [.query 0 .clusterCount]
    let between : List Step := [.iterate 0, .chop 0 (.first 1)]
    let later : List Step := [.selectSegmenter (.given .codePoints), .next 1, .chop 0 (.first 1),
      .next 0, .next 1, .next 0, .next 0]
    let first := made.after (.iterate 0 :: between)
    let answers := first.answersTo 0 (.next 0 :: later)
    made.iterators.length = 0 ∧ 0 < made.views.length ∧ (∀ step ∈ between, ¬ step.Asks 0) ∧
      answers.map yieldedText = [['🇩', '🇪'], [','], [], []] ∧
      (first.answersTo 1 (.next 0 :: later)).map yieldedText = [['🇩'], ['🇪']] ∧
      ∃ view clusters, first.views[0]? = some view ∧
        clusters = first.segmenter.clusters view.text ∧
        answers.length = later.countP (·.Asks 0) + 1 ∧
        (∀ k (h : k < answers.length), answers[k] = .ok (clusterAnswer clusters[k]?)) ∧
        (clusters.length ≤ answers.length → answers.flatMap yieldedText = view.text) := by
  intro made between later first answers
  have hbetween : ∀ step ∈ between, ¬ step.Asks 0 := by
    simp [between, Step.asks_iff]
  have hthere : 0 < made.views.length := by
    decide
  obtain ⟨-, hanswers, -⟩ := iterator_is_snapshot {} [.ofText ['>', '🇩', '🇪', ',']]
    [.query 0 .clusterCount] between later 0
  exact ⟨rfl, hthere, hbetween, by decide +kernel, by decide +kernel, hanswers hthere hbetween⟩

end Session

end TextCursor
