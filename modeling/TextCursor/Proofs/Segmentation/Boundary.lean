import TextCursor.Segmentation.Segmenter

/-!
# Cluster boundaries

Where the clusters of a text begin and end, seen in two ways: as the places at which the list of
its clusters comes apart (`IsBoundary`), and as the places before which the rule does not join a
character to what stands in front of it (`BreaksBefore`). `isBoundary_iff_breaksBefore` says that
these are the same. The first view shows that the parts on both sides of a boundary have just the
clusters that they contribute to the whole (`clusters_append`); the second shows that a boundary
depends on the text in front of it and one character more.
-/

namespace TextCursor

/-- The characters of a text, each one a text alone, make it up. -/
theorem Text.flatten_map_singleton (text : Text) : (text.map ([·])).flatten = text := by
  rw [← List.flatMap_def, List.flatMap_singleton']

namespace ClusterRule

variable (rule : ClusterRule)

/-- Cutting an open cluster with some of the clusters behind it finds them again, and the clusters
that remain are found without the open cluster. -/
theorem cutAfter_append {state : rule.State} {text more : Text} {front back : List Text}
    (h : rule.cutAfter state text = (more, front ++ back)) :
    rule.cutAfter state (more ++ front.flatten) = (more, front) ∧
      rule.clusters back.flatten = back := by
  induction text generalizing state more front with
  | nil =>
      simp only [cutAfter, Prod.mk.injEq, List.nil_eq, List.append_eq_nil_iff] at h
      obtain ⟨rfl, rfl, rfl⟩ := h
      exact ⟨rfl, rfl⟩
  | cons c rest ih =>
      cases hjoin : rule.join state c with
      | some joined =>
          simp only [cutAfter, hjoin, Prod.mk.injEq] at h
          obtain ⟨rfl, hlater⟩ := h
          obtain ⟨hfront, hback⟩ := ih (Prod.ext rfl hlater)
          refine ⟨?_, hback⟩
          simp [cutAfter, hjoin, hfront]
      | none =>
          simp only [cutAfter, hjoin, Prod.mk.injEq] at h
          obtain ⟨rfl, hlater⟩ := h
          -- the place where the clusters come apart is in front of `c`, or behind its cluster
          cases front with
          | nil =>
              have hback : back = rule.clusters (c :: rest) := hlater.symm
              rw [hback, flatten_clusters]
              exact ⟨rfl, rfl⟩
          | cons first others =>
              simp only [List.cons_append, List.cons.injEq] at hlater
              obtain ⟨rfl, hothers⟩ := hlater
              obtain ⟨hfront, hback⟩ := ih (Prod.ext rfl hothers)
              refine ⟨?_, hback⟩
              simp [cutAfter, hjoin, hfront]

/-- Each side of a place where the clusters of a text come apart has just the clusters that stand
on that side. -/
theorem clusters_append {text : Text} {front back : List Text}
    (h : rule.clusters text = front ++ back) :
    rule.clusters front.flatten = front ∧ rule.clusters back.flatten = back := by
  cases text with
  | nil =>
      simp only [clusters, List.nil_eq, List.append_eq_nil_iff] at h
      obtain ⟨rfl, rfl⟩ := h
      exact ⟨rfl, rfl⟩
  | cons c rest =>
      cases front with
      | nil =>
          have hback : back = rule.clusters (c :: rest) := h.symm
          rw [hback, flatten_clusters]
          exact ⟨rfl, rfl⟩
      | cons first others =>
          simp only [clusters, List.cons_append, List.cons.injEq] at h
          obtain ⟨rfl, hothers⟩ := h
          obtain ⟨hfront, hback⟩ := rule.cutAfter_append (Prod.ext rfl hothers)
          exact ⟨by simp [clusters, hfront], hback⟩

/-- A run of clusters of a text makes up a text with just these clusters. -/
theorem clusters_infix {text : Text} {before middle after : List Text}
    (h : rule.clusters text = before ++ (middle ++ after)) :
    rule.clusters middle.flatten = middle :=
  (rule.clusters_append (rule.clusters_append h).2).1

/-- The state of the cluster that is open behind a text, when a cluster in the given state is open
in front of it. -/
def stateBehind (state : rule.State) (text : Text) : rule.State :=
  text.foldl (fun opened c => (rule.join opened c).getD (rule.first c)) state

/-- The rule puts a boundary between a text and a character that follows it. There is always one
at the start of the text. -/
def BreaksBefore (before : Text) (c : Char) : Prop :=
  match before with
  | [] => True
  | b :: more => rule.join (rule.stateBehind (rule.first b) more) c = none

/-- Behind an open cluster, the clusters come apart in front of a character just where the rule
does not join it. -/
theorem cutAfter_comes_apart_iff (state : rule.State) (before : Text) (c : Char) (after : Text) :
    (∃ front back, (rule.cutAfter state (before ++ c :: after)).2 = front ++ back ∧
        (rule.cutAfter state (before ++ c :: after)).1 ++ front.flatten = before) ↔
      rule.join (rule.stateBehind state before) c = none := by
  induction before generalizing state with
  | nil =>
      cases hjoin : rule.join state c with
      | some joined => simp [cutAfter, stateBehind, hjoin]
      | none =>
          simp only [List.nil_append, cutAfter, stateBehind, List.foldl_nil, hjoin, iff_true]
          exact ⟨[], _, rfl, rfl⟩
  | cons b more ih =>
      cases hjoin : rule.join state b with
      | some joined =>
          simpa [cutAfter, stateBehind, hjoin] using ih joined
      | none =>
          have ih := ih (rule.first b)
          simp only [stateBehind, List.foldl_cons, hjoin, Option.getD_none] at ih ⊢
          rw [← ih]
          simp only [List.cons_append, cutAfter, hjoin, List.nil_append]
          -- the cluster that `b` begins stands in front of all that the induction speaks of
          constructor
          · rintro ⟨front, back, hlater, hbefore⟩
            cases front with
            | nil => simp at hbefore
            | cons first others =>
                simp only [List.cons_append, List.cons.injEq] at hlater
                obtain ⟨rfl, hothers⟩ := hlater
                exact ⟨others, back, hothers, by simpa using hbefore⟩
          · rintro ⟨front, back, hlater, hbefore⟩
            exact ⟨_ :: front, back, by rw [hlater]; rfl, by simpa using hbefore⟩

/-- The clusters of a text come apart in front of a character just where the rule puts a
boundary. -/
theorem clusters_come_apart_iff (before : Text) (c : Char) (after : Text) :
    (∃ front back, rule.clusters (before ++ c :: after) = front ++ back ∧
        front.flatten = before) ↔ rule.BreaksBefore before c := by
  cases before with
  | nil =>
      simp only [List.nil_append, BreaksBefore, iff_true]
      exact ⟨[], _, rfl, rfl⟩
  | cons b more =>
      rw [BreaksBefore, ← rule.cutAfter_comes_apart_iff _ _ _ after]
      simp only [List.cons_append, clusters]
      constructor
      · rintro ⟨front, back, hclusters, hbefore⟩
        cases front with
        | nil => simp at hbefore
        | cons first others =>
            simp only [List.cons_append, List.cons.injEq] at hclusters
            obtain ⟨rfl, hothers⟩ := hclusters
            exact ⟨others, back, hothers, by simpa using hbefore⟩
      · rintro ⟨front, back, hlater, hbefore⟩
        exact ⟨_ :: front, back, by rw [hlater]; rfl, by simpa using hbefore⟩

/-- Where the rule puts a boundary between two texts, the clusters of both together are those of
the first and then those of the second. -/
theorem clusters_append_of_breaksBefore {before : Text} {c : Char} {after : Text}
    (h : rule.BreaksBefore before c) :
    rule.clusters (before ++ c :: after) = rule.clusters before ++ rule.clusters (c :: after) := by
  obtain ⟨front, back, hclusters, hbefore⟩ := (rule.clusters_come_apart_iff before c after).2 h
  obtain ⟨hfront, hback⟩ := rule.clusters_append hclusters
  have htext : before ++ c :: after = front.flatten ++ back.flatten := by
    rw [← List.flatten_append, ← hclusters, flatten_clusters]
  have hafter : back.flatten = c :: after := by
    rw [hbefore] at htext
    exact (List.append_cancel_left htext).symm
  rw [hclusters, ← hbefore, hfront, ← hafter, hback]

/-- Under the rule of code points, no cluster takes a second character. -/
theorem cutAfter_codePoint (state : codePoint.State) (text : Text) :
    codePoint.cutAfter state text = ([], text.map ([·])) := by
  induction text generalizing state with
  | nil => rfl
  | cons c rest ih =>
      show ([], (c :: (codePoint.cutAfter (codePoint.first c) rest).1) ::
        (codePoint.cutAfter (codePoint.first c) rest).2) = _
      rw [ih]
      rfl

end ClusterRule

namespace Segmenter

/-- The clusters of a text make up the text. -/
theorem flatten_clusters (segmenter : Segmenter) (text : Text) :
    (segmenter.clusters text).flatten = text :=
  segmenter.rule.flatten_clusters text

/-- The characters of a cluster stand in the text. -/
theorem mem_of_mem_clusters {segmenter : Segmenter} {text cluster : Text} {c : Char}
    (hcluster : cluster ∈ segmenter.clusters text) (hc : c ∈ cluster) : c ∈ text := by
  rw [← segmenter.flatten_clusters text]
  exact List.mem_flatten.2 ⟨cluster, hcluster, hc⟩

/-- With code points for clusters, every character of a text is a cluster. -/
theorem clusters_codePoints (text : Text) : codePoints.clusters text = text.map ([·]) := by
  cases text with
  | nil => rfl
  | cons c rest =>
      show (c :: (codePoints.rule.cutAfter (codePoints.rule.first c) rest).1) ::
        (codePoints.rule.cutAfter (codePoints.rule.first c) rest).2 = _
      rw [show codePoints.rule.cutAfter (codePoints.rule.first c) rest = ([], rest.map ([·])) from
        ClusterRule.cutAfter_codePoint _ rest]
      rfl

/-- There is a boundary between clusters of the text at this offset, or one of its two ends. -/
def IsBoundary (segmenter : Segmenter) (text : Text) (offset : Nat) : Prop :=
  offset = 0 ∨ ∃ start, (start, offset) ∈ segmenter.spans text

/-- The intervals of clusters that begin at one offset are those of the same clusters that begin
at another one, moved by the difference. -/
theorem place_add (clusters : List Text) (start offset : Nat) :
    spans.place (start + offset) clusters =
      (spans.place start clusters).map (Prod.map (· + offset) (· + offset)) := by
  induction clusters generalizing start with
  | nil => rfl
  | cons cluster later ih =>
      have hstop : start + offset + cluster.length = start + cluster.length + offset := by omega
      simp only [spans.place, List.map_cons, Prod.map_apply, hstop, ih]

/-- The intervals of some clusters are followed by those of the next ones, which begin where these
end. -/
theorem place_append (front back : List Text) (start : Nat) :
    spans.place start (front ++ back) =
      spans.place start front ++ spans.place (start + front.flatten.length) back := by
  induction front generalizing start with
  | nil => simp [spans.place]
  | cons cluster later ih => simp [spans.place, ih, Nat.add_assoc]

/-- The intervals of clusters end where some of the leading clusters do. -/
theorem exists_mem_place_iff (clusters : List Text) (start stop : Nat) :
    (∃ s, (s, stop) ∈ spans.place start clusters) ↔
      ∃ front back, clusters = front ++ back ∧ front ≠ [] ∧
        stop = start + front.flatten.length := by
  induction clusters generalizing start with
  | nil => simp [spans.place]
  | cons cluster later ih =>
      have ih := ih (start + cluster.length)
      constructor
      · rintro ⟨s, hs⟩
        rcases List.mem_cons.1 hs with hfirst | hlater
        · exact ⟨[cluster], later, rfl, by simp, by simpa using congrArg Prod.snd hfirst⟩
        · obtain ⟨front, back, rfl, -, hstop⟩ := ih.1 ⟨s, hlater⟩
          exact ⟨cluster :: front, back, rfl, by simp, by simp [hstop, Nat.add_assoc]⟩
      · rintro ⟨front, back, hclusters, hne, rfl⟩
        cases front with
        | nil => exact absurd rfl hne
        | cons first others =>
            simp only [List.cons_append, List.cons.injEq] at hclusters
            obtain ⟨rfl, hothers⟩ := hclusters
            cases others with
            | nil => exact ⟨start, by simp [spans.place]⟩
            | cons second further =>
                obtain ⟨s, hs⟩ := ih.2 ⟨_, back, hothers, by simp, by simp [Nat.add_assoc]⟩
                exact ⟨s, List.mem_cons_of_mem _ hs⟩

/-- The boundaries of a text are the places at which the list of its clusters comes apart. -/
theorem isBoundary_iff_exists_append {segmenter : Segmenter} {text : Text} {offset : Nat} :
    segmenter.IsBoundary text offset ↔
      ∃ front back, segmenter.clusters text = front ++ back ∧ front.flatten.length = offset := by
  rw [IsBoundary, spans, exists_mem_place_iff]
  constructor
  · rintro (rfl | ⟨front, back, hclusters, -, hoffset⟩)
    · exact ⟨[], _, rfl, rfl⟩
    · exact ⟨front, back, hclusters, by omega⟩
  · rintro ⟨front, back, hclusters, rfl⟩
    cases front with
    | nil => exact Or.inl rfl
    | cons first others => exact Or.inr ⟨_, back, hclusters, by simp, by omega⟩

/-- The clusters on both sides of a boundary are those of the text. -/
theorem IsBoundary.clusters_take_drop {segmenter : Segmenter} {text : Text} {offset : Nat}
    (h : segmenter.IsBoundary text offset) :
    segmenter.clusters (text.take offset) ++ segmenter.clusters (text.drop offset) =
      segmenter.clusters text := by
  obtain ⟨front, back, hclusters, rfl⟩ := isBoundary_iff_exists_append.1 h
  have htext : text = front.flatten ++ back.flatten := by
    rw [← List.flatten_append, ← hclusters, flatten_clusters]
  obtain ⟨hfront, hback⟩ := segmenter.rule.clusters_append hclusters
  rw [hclusters, htext, List.take_left, List.drop_left, clusters, clusters, hfront, hback]

/-- Inside a text, there is a boundary just where the rule of the segmenter puts one. -/
theorem isBoundary_iff_breaksBefore {segmenter : Segmenter} {text : Text} {offset : Nat}
    (h : offset < text.length) :
    segmenter.IsBoundary text offset ↔
      segmenter.rule.BreaksBefore (text.take offset) text[offset] := by
  have htext : text.take offset ++ text[offset] :: text.drop (offset + 1) = text := by
    rw [List.getElem_cons_drop, List.take_append_drop]
  rw [← ClusterRule.clusters_come_apart_iff _ _ _ (text.drop (offset + 1)), htext,
    isBoundary_iff_exists_append]
  constructor
  · rintro ⟨front, back, hclusters, rfl⟩
    refine ⟨front, back, hclusters, ?_⟩
    rw [← segmenter.flatten_clusters text, hclusters, List.flatten_append, List.take_left]
  · rintro ⟨front, back, hclusters, hfront⟩
    refine ⟨front, back, hclusters, ?_⟩
    rw [hfront, List.length_take]
    omega

end Segmenter

end TextCursor
