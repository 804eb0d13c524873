import TextCursor.Proofs.Session.Handles

/-!
# Taking and chopping by a test, and trimming

Operations on a view that test its clusters do what the same operations do on the list of clusters:
they find the longest run at one end of which every cluster passes the test. What they make and what
they leave is segmented anew by the next operation, which finds the same clusters again; so a second
chop by the same test removes nothing, and trimming twice is trimming once. All of this is
`Session.tests_are_list_operations`.
-/

namespace TextCursor

/-- The longest run of leading clusters that all pass the test. -/
structure LongestFront (test : Text → Bool) (run clusters : List Text) : Prop where
  leads : run <+: clusters
  passes : ∀ cluster ∈ run, test cluster
  longest : ∀ other, other <+: clusters → (∀ cluster ∈ other, test cluster) → other <+: run

/-- The longest run of trailing clusters that all pass the test. -/
structure LongestBack (test : Text → Bool) (run clusters : List Text) : Prop where
  trails : run <:+ clusters
  passes : ∀ cluster ∈ run, test cluster
  longest : ∀ other, other <:+ clusters → (∀ cluster ∈ other, test cluster) → other <:+ run

variable (test : Text → Bool) {clusters run : List Text}

/-- Taking clusters while they pass the test finds the longest run in front. -/
theorem longestFront_takeWhile (clusters : List Text) :
    LongestFront test (clusters.takeWhile test) clusters where
  leads := List.takeWhile_prefix test
  passes := fun _ hcluster => List.mem_takeWhile_imp hcluster
  longest := by
    rintro other ⟨rest, rfl⟩ hpasses
    exact ⟨rest.takeWhile test, (List.takeWhile_append_of_pos hpasses).symm⟩

/-- Taking clusters from the back while they pass the test finds the longest run there. -/
theorem longestBack_rtakeWhile (clusters : List Text) :
    LongestBack test (clusters.rtakeWhile test) clusters where
  trails := List.rtakeWhile_suffix test clusters
  passes := fun _ hcluster => List.mem_rtakeWhile_imp hcluster
  longest := by
    intro other hother hpasses
    have hfront := (longestFront_takeWhile test clusters.reverse).longest other.reverse
      (List.reverse_prefix.2 hother) (by simpa using hpasses)
    rw [← List.reverse_prefix, List.rtakeWhile, List.reverse_reverse]
    exact hfront

/-- What is left behind the leading clusters that pass a test does not begin with one that does. -/
theorem takeWhile_eq_nil (h : run <+: clusters.dropWhile test) : run.takeWhile test = [] := by
  cases run with
  | nil => rfl
  | cons cluster later =>
      obtain ⟨behind, hbehind⟩ := h
      have hfirst := List.head?_dropWhile_not test clusters
      rw [← hbehind] at hfirst
      exact List.takeWhile_cons_of_neg (by simpa using hfirst)

/-- Where nothing passes the test in front, nothing is dropped. -/
theorem dropWhile_eq_self (h : run.takeWhile test = []) : run.dropWhile test = run := by
  have hsplit := List.takeWhile_append_dropWhile (p := test) (l := run)
  rwa [h, List.nil_append] at hsplit

/-- What is left when clusters that pass a test are dropped on both sides does not begin with one
that does. -/
theorem takeWhile_dropped (clusters : List Text) :
    (withoutLastWhile test (clusters.dropWhile test)).takeWhile test = [] :=
  takeWhile_eq_nil test (withoutLastWhile_isPrefix test _)

/-- What is in front of the trailing clusters that pass a test has none of these at its back. -/
theorem withoutLastWhile_idem (clusters : List Text) :
    withoutLastWhile test (withoutLastWhile test clusters) = withoutLastWhile test clusters :=
  List.rdropWhile_idempotent test clusters

/-- The trailing clusters that pass a test are those of the back, or also some of the front where
all of the back passes. -/
theorem withoutLastWhile_append_eq (front back : List Text) :
    withoutLastWhile test (front ++ back) =
      if withoutLastWhile test back = [] then withoutLastWhile test front
      else front ++ withoutLastWhile test back := by
  have hnone : (back.reverse.dropWhile test).isEmpty = true ↔ withoutLastWhile test back = [] := by
    rw [List.isEmpty_iff, withoutLastWhile, List.reverse_eq_nil_iff]
  rw [withoutLastWhile, List.reverse_append, List.dropWhile_append]
  by_cases hback : withoutLastWhile test back = []
  · rw [if_pos (hnone.2 hback), if_pos hback]
    rfl
  · rw [if_neg (mt hnone.1 hback), if_neg hback, List.reverse_append, List.reverse_reverse]
    rfl

/-- It does not matter on which side the clusters that pass a test are dropped first. -/
theorem dropWhile_withoutLastWhile (clusters : List Text) :
    (withoutLastWhile test clusters).dropWhile test =
      withoutLastWhile test (clusters.dropWhile test) := by
  have hkept := dropWhile_eq_self test (takeWhile_dropped test clusters)
  have hpasses : ∀ cluster ∈ clusters.takeWhile test, test cluster :=
    (longestFront_takeWhile test clusters).passes
  have hfront : (withoutLastWhile test (clusters.takeWhile test)).dropWhile test = [] := by
    rw [List.dropWhile_eq_nil_iff]
    intro cluster hcluster
    exact hpasses cluster ((withoutLastWhile_isPrefix test _).subset hcluster)
  conv_lhs => rw [← List.takeWhile_append_dropWhile (p := test) (l := clusters)]
  rw [withoutLastWhile_append_eq]
  split
  · next hnone => rw [hfront, hnone]
  · rw [List.dropWhile_append_of_pos hpasses, hkept]

/-- A list of clusters in three parts, of which the outer ones pass the test, and the middle neither
begins nor ends with a cluster that does. -/
structure Trims (lead middle trail : List Text) : Prop where
  lead : ∀ cluster ∈ lead, test cluster
  trail : ∀ cluster ∈ trail, test cluster
  head : ∀ cluster ∈ middle.head?, ¬ test cluster
  last : ∀ cluster ∈ middle.getLast?, ¬ test cluster

/-- Dropping clusters on both sides while they pass the test leaves the middle of the list. -/
theorem exists_trims (clusters : List Text) :
    ∃ lead trail, clusters =
        lead ++ (withoutLastWhile test (clusters.dropWhile test) ++ trail) ∧
      Trims test lead (withoutLastWhile test (clusters.dropWhile test)) trail := by
  refine ⟨clusters.takeWhile test, (clusters.dropWhile test).rtakeWhile test, ?_, ?_, ?_, ?_, ?_⟩
  · rw [withoutLastWhile_append, List.takeWhile_append_dropWhile]
  · exact (longestFront_takeWhile test clusters).passes
  · exact (longestBack_rtakeWhile test _).passes
  · have hself := dropWhile_eq_self test (takeWhile_dropped test clusters)
    have hhead := List.head?_dropWhile_not test (withoutLastWhile test (clusters.dropWhile test))
    rw [hself] at hhead
    intro cluster hcluster
    rw [Option.mem_def.1 hcluster] at hhead
    simpa using hhead
  · intro cluster hcluster
    obtain ⟨hne, rfl⟩ := List.mem_getLast?_eq_getLast hcluster
    exact List.rdropWhile_last_not test (clusters.dropWhile test) hne

namespace Window

variable {w : Window} {segmenter : Segmenter}

/-- Where nothing passes the test in front, a chop by it removes nothing. -/
theorem MadeOf.chopWhile_eq_self (h : w.MadeOf clusters) (hnone : clusters.takeWhile test = []) :
    ∃ nothing, nothing.size = 0 ∧ w.chopWhile clusters test = ⟨nothing, w⟩ := by
  refine ⟨w.stretch [] [], rfl, ?_⟩
  rw [h.chopWhile_eq, hnone, dropWhile_eq_self test hnone, h.stretch_all]

/-- Where nothing passes the test at the back, a chop by it removes nothing. -/
theorem MadeOf.chopLastWhile_eq_self (h : w.MadeOf clusters)
    (hall : withoutLastWhile test clusters = clusters) :
    ∃ nothing, nothing.size = 0 ∧ w.chopLastWhile clusters test = ⟨nothing, w⟩ := by
  have hnone : clusters.rtakeWhile test = [] := by
    have hsplit := withoutLastWhile_append test clusters
    rw [hall] at hsplit
    exact List.append_right_eq_self.1 hsplit
  refine ⟨w.stretch clusters [], rfl, ?_⟩
  rw [h.chopLastWhile_eq, hall, hnone, h.stretch_all]

/-- A window that begins and ends with no blank cluster is trimmed already. -/
theorem HasClusters.trim_eq_self (h : w.HasClusters segmenter clusters)
    (hfront : clusters.takeWhile Cluster.isBlank = [])
    (hback : withoutLastWhile Cluster.isBlank clusters = clusters) :
    w.trim clusters segmenter = w := by
  have hstart : w.trimStart clusters = w := by
    rw [h.madeOf.trimStart_eq, hfront, dropWhile_eq_self _ hfront, h.madeOf.stretch_all]
  rw [h.trim_eq, hstart, dropWhile_eq_self _ hfront, trimEnd_eq, hback, h.madeOf.stretch_all]

end Window

namespace Session

/-- What comes of taking and of chopping clusters by a test: the derivation makes the window that
the chop removes, which has these clusters, the chop leaves one that has the rest of them, and made
once more it removes nothing. -/
structure Parts (s : Session) (handle : Nat) (derivation : Derivation) (chop : Chop)
    (run rest : List Text) (cut : Cut) : Prop where
  makes : s.Makes handle derivation cut.removed
  takes : s.Takes handle chop cut
  removed : s.segmenter.clusters cut.removed.text = run
  rest : s.segmenter.clusters cut.rest.text = rest
  again : ∃ nothing, nothing.size = 0 ∧
    (s.step (.chop handle chop)).state.Takes handle chop ⟨nothing, cut.rest⟩

variable {s : Session} {handle : Nat} {view : View} {w : Window}

/-- A derivation and a chop part the clusters of a view by a test if they do so with its window,
and the chop finds nothing in the window of the rest. -/
theorem Holds.parts (h : s.Holds handle w clusters) {derivation : Derivation} {chop : Chop}
    {cut : Cut} {rest : List Text}
    (hmade : deriveWindow s.segmenter w clusters derivation = .ok cut.removed)
    (hcut : ∀ view : View, view.window = w → s.cutOf? view clusters chop = some cut)
    (hrun : cut.removed.HasClusters s.segmenter run)
    (hrest : cut.rest.HasClusters s.segmenter rest)
    (hagain : ∃ nothing, nothing.size = 0 ∧ ∀ (t : Session) (view : View),
      view.window = cut.rest → t.cutOf? view rest chop = some ⟨nothing, cut.rest⟩) :
    s.Parts handle derivation chop run rest cut := by
  obtain ⟨htakes, hbehind⟩ := h.chop hcut hrest
  obtain ⟨nothing, hnothing, hfinds⟩ := hagain
  obtain ⟨hagain, -⟩ := hbehind.chop (hfinds _) hbehind.hasClusters
  exact ⟨(h.derive derivation hmade hrun).1, htakes, hrun.clusters_eq, hrest.clusters_eq, nothing,
    hnothing, hagain⟩

/-- Taking and chopping by a test in front part the clusters behind the longest run there. -/
theorem Holds.parts_front (h : s.Holds handle w clusters) (test : Text → Bool) :
    s.Parts handle (.takeWhile test) (.while test) (clusters.takeWhile test)
      (clusters.dropWhile test) (w.chopWhile clusters test) := by
  have hclusters := h.hasClusters
  have hcut := hclusters.madeOf.chopWhile_eq test
  rw [← List.takeWhile_append_dropWhile (p := test) (l := clusters)] at hclusters
  have hrun := hclusters.stretch_front
  have hrest := hclusters.stretch_back
  have hnone := takeWhile_eq_nil test (List.prefix_refl (clusters.dropWhile test))
  obtain ⟨nothing, hnothing, hagain⟩ := hrest.madeOf.chopWhile_eq_self test hnone
  refine h.parts rfl ?_ (hcut ▸ hrun) (hcut ▸ hrest) ⟨nothing, hnothing, ?_⟩
  · intro view hview
    rw [cutOf?, hview]
  · intro t view hview
    rw [cutOf?, hview, hcut, hagain]

/-- Taking and chopping by a test at the back part the clusters in front of the longest run
there. -/
theorem Holds.parts_back (h : s.Holds handle w clusters) (test : Text → Bool) :
    s.Parts handle (.takeLastWhile test) (.lastWhile test) (clusters.rtakeWhile test)
      (withoutLastWhile test clusters) (w.chopLastWhile clusters test) := by
  have hclusters := h.hasClusters
  have hcut := hclusters.madeOf.chopLastWhile_eq test
  rw [← withoutLastWhile_append test clusters] at hclusters
  have hrun := hclusters.stretch_back
  have hrest := hclusters.stretch_front
  obtain ⟨nothing, hnothing, hagain⟩ :=
    hrest.madeOf.chopLastWhile_eq_self test (withoutLastWhile_idem test clusters)
  refine h.parts rfl ?_ (hcut ▸ hrun) (hcut ▸ hrest) ⟨nothing, hnothing, ?_⟩
  · intro view hview
    rw [cutOf?, hview]
  · intro t view hview
    rw [cutOf?, hview, hcut, hagain]

/-- Trimming a view makes a window that has the clusters between the blank ones, and trimming that
one makes the same window. -/
theorem Holds.trims_again (h : s.Holds handle w clusters) :
    let trimmed := w.trim clusters s.segmenter
    s.Makes handle .trim trimmed ∧
      (s.step (.derive handle .trim)).state.Makes s.views.length .trim trimmed := by
  intro trimmed
  obtain ⟨hmakes, hholds⟩ := h.derive .trim rfl h.hasClusters.trim
  have hclusters := hholds.hasClusters
  have hself := hclusters.trim_eq_self (takeWhile_dropped Cluster.isBlank clusters)
    (withoutLastWhile_idem Cluster.isBlank _)
  exact ⟨hmakes, (hholds.derive .trim (congrArg Except.ok hself) hclusters).1⟩

/-- Trimming a view on one side and what this makes on the other comes to the same text, whichever
side is the first. -/
theorem Holds.trims_either_way (h : s.Holds handle w clusters) :
    ∃ left right leftRight rightLeft,
      s.Makes handle .trimStart left ∧
        (s.step (.derive handle .trimStart)).state.Makes s.views.length .trimEnd leftRight ∧
        s.Makes handle .trimEnd right ∧
        (s.step (.derive handle .trimEnd)).state.Makes s.views.length .trimStart rightLeft ∧
        leftRight.text = rightLeft.text := by
  have hclusters := h.hasClusters
  obtain ⟨hleft, hholdsLeft⟩ := h.derive .trimStart rfl hclusters.trimStart
  obtain ⟨hright, hholdsRight⟩ := h.derive .trimEnd rfl hclusters.trimEnd
  have hleftRight := hclusters.trimStart.trimEnd
  have hrightLeft := hclusters.trimEnd.trimStart
  refine ⟨_, _, _, _, hleft, (hholdsLeft.derive .trimEnd rfl hholdsLeft.hasClusters.trimEnd).1,
    hright, (hholdsRight.derive .trimStart rfl hholdsRight.hasClusters.trimStart).1, ?_⟩
  -- both texts are made up of their clusters, and these are the same
  rw [← hleftRight.madeOf.flatten, ← hrightLeft.madeOf.flatten,
    dropWhile_withoutLastWhile Cluster.isBlank]

/-- Operations that test the clusters of a view are those on the list of its clusters, whatever the
test is. Taking clusters in front or at the back makes the window of the longest run there that
passes, segmented alone as it was in the view; chopping removes the same window, leaves the view
with the other clusters, and does not find anything when it is repeated. Trimming makes the window
of the clusters between the blank ones at either end, and so does trimming that window. Trimming one
side and then the other comes to the same text, whichever side is the first. -/
theorem tests_are_list_operations (hview : s.views[handle]? = some view) (hvalid : view.Valid) :
    let clusters := s.segmenter.clusters view.text
    (∀ test : Text → Bool,
      (∃ run rest cut, clusters = run ++ rest ∧ LongestFront test run clusters ∧
        s.Parts handle (.takeWhile test) (.while test) run rest cut) ∧
      ∃ run rest cut, clusters = rest ++ run ∧ LongestBack test run clusters ∧
        s.Parts handle (.takeLastWhile test) (.lastWhile test) run rest cut) ∧
    (∃ lead middle trail trimmed,
      clusters = lead ++ (middle ++ trail) ∧ Trims Cluster.isBlank lead middle trail ∧
        s.Makes handle .trim trimmed ∧ s.segmenter.clusters trimmed.text = middle ∧
        (s.step (.derive handle .trim)).state.Makes s.views.length .trim trimmed) ∧
    ∃ left right leftRight rightLeft,
      s.Makes handle .trimStart left ∧
        (s.step (.derive handle .trimStart)).state.Makes s.views.length .trimEnd leftRight ∧
        s.Makes handle .trimEnd right ∧
        (s.step (.derive handle .trimEnd)).state.Makes s.views.length .trimStart rightLeft ∧
        leftRight.text = rightLeft.text := by
  intro clusters
  have hholds : s.Holds handle view.window clusters := holds_of_valid hview hvalid
  refine ⟨fun test => ⟨?_, ?_⟩, ?_, hholds.trims_either_way⟩
  · exact ⟨_, _, _, List.takeWhile_append_dropWhile.symm, longestFront_takeWhile test clusters,
      hholds.parts_front test⟩
  · exact ⟨_, _, _, (withoutLastWhile_append test clusters).symm,
      longestBack_rtakeWhile test clusters, hholds.parts_back test⟩
  · obtain ⟨lead, trail, hparts, htrims⟩ := exists_trims Cluster.isBlank clusters
    obtain ⟨hmakes, hagain⟩ := hholds.trims_again
    exact ⟨lead, _, trail, _, hparts, htrims, hmakes, hholds.hasClusters.trim.clusters_eq, hagain⟩

/-- A flag and a space that carries a mark, between a line end of two characters and a tab. -/
theorem tests_are_list_operations_marked_space :
    let source : Text := ['x', ' ', '\r', '\n', '🇩', '🇪', ' ', '\u0301', '\t', 'y']
    let view := View.ofWindow ⟨source, 1, 8⟩
    let s : Session := { settings := {}, views := [view] }
    let clusters : List Text := [[' '], ['\r', '\n'], ['🇩', '🇪'], [' ', '\u0301'], ['\t']]
    s.views[0]? = some view ∧ view.Valid ∧ s.segmenter.clusters view.text = clusters ∧
      (∃ run rest cut, clusters = rest ++ run ∧ LongestBack Cluster.isBlank run clusters ∧
        s.Parts 0 (.takeLastWhile Cluster.isBlank) (.lastWhile Cluster.isBlank) run rest cut) ∧
      s.Makes 0 .trim ⟨source, 4, 4⟩ ∧
      s.segmenter.clusters (Window.mk source 4 4).text = [['🇩', '🇪'], [' ', '\u0301']] ∧
      (s.step (.derive 0 .trim)).state.Makes 1 .trim ⟨source, 4, 4⟩ := by
  intro source view s clusters
  have hview : s.views[0]? = some view := rfl
  have hvalid : view.Valid := View.valid_ofWindow (by decide)
  have hclusters : s.segmenter.clusters view.text = clusters := by
    decide
  obtain ⟨htests, htrim, -⟩ := tests_are_list_operations hview hvalid
  obtain ⟨lead, middle, trail, trimmed, -, -, hmakes, -, hagain⟩ := htrim
  have hresult : (s.step (.derive 0 .trim)).result =
      .ok (.view 1 (view.window.trim (view.clusters s.segmenter) s.segmenter)) := rfl
  have hwindow : view.window.trim (view.clusters s.segmenter) s.segmenter = ⟨source, 4, 4⟩ := by
    decide
  rw [hwindow] at hresult
  obtain ⟨-, rfl⟩ := Answer.view.inj (Except.ok.inj (hmakes.result.symm.trans hresult))
  have hback := (htests Cluster.isBlank).2
  rw [hclusters] at hback
  exact ⟨hview, hvalid, hclusters, hback, hmakes, by decide, hagain⟩

end Session

end TextCursor
