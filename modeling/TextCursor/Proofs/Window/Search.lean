import Mathlib.Data.List.Infix
import TextCursor.Proofs.Segmentation.Boundary
import TextCursor.Window.Clusters

/-!
# Searching texts and clusters

What a search answers: `Text.indexOf?` the front of a place where the text stands, and `beforeRun`
the clusters in front of a run that spells it. Each answers something exactly when there is such a
place. The clusters of a delimiter that is found among the clusters of a text are those of the
delimiter alone, so that the number of its clusters is enough to look for it
(`isSome_beforeRun_iff`).
-/

namespace TextCursor

/-- Where a text is found, it stands, and the offset is the length of what is in front of it. -/
theorem Text.exists_append_of_indexOf? {needle text : Text} {offset : Nat}
    (h : Text.indexOf? needle text = some offset) :
    ∃ before after, text = before ++ needle ++ after ∧ before.length = offset := by
  induction text generalizing offset with
  | nil =>
      simp only [Text.indexOf?, Option.ite_none_right_eq_some, Option.some.injEq] at h
      obtain ⟨rfl, rfl⟩ := h
      exact ⟨[], [], rfl, rfl⟩
  | cons c rest ih =>
      rw [Text.indexOf?] at h
      split at h
      · next hprefix =>
          obtain ⟨after, hafter⟩ := List.isPrefixOf_iff_prefix.1 hprefix
          cases h
          exact ⟨[], after, hafter.symm, rfl⟩
      · obtain ⟨n, hn, rfl⟩ := Option.map_eq_some_iff.1 h
        obtain ⟨before, after, rfl, rfl⟩ := ih hn
        exact ⟨c :: before, after, rfl, rfl⟩

/-- A text is found exactly when it stands somewhere. -/
theorem Text.isSome_indexOf?_iff {needle text : Text} :
    (Text.indexOf? needle text).isSome ↔ needle <:+: text := by
  constructor
  · intro h
    obtain ⟨offset, hoffset⟩ := Option.isSome_iff_exists.1 h
    obtain ⟨before, after, htext, -⟩ := exists_append_of_indexOf? hoffset
    exact ⟨before, after, htext.symm⟩
  · intro h
    induction text with
    | nil => simp [Text.indexOf?, List.eq_nil_of_infix_nil h]
    | cons c rest ih =>
        rw [Text.indexOf?]
        split
        · rfl
        · next hprefix =>
            rcases List.infix_cons_iff.1 h with hfront | hrest
            · exact absurd (List.isPrefixOf_iff_prefix.2 hfront) hprefix
            · rw [Option.isSome_map]
              exact ih hrest

/-- A text is found at the very front of a text that begins with it, the empty text included. -/
theorem Text.indexOf?_append (needle rest : Text) :
    Text.indexOf? needle (needle ++ rest) = some 0 := by
  cases h : needle ++ rest with
  | nil =>
      obtain ⟨rfl, -⟩ := List.append_eq_nil_iff.1 h
      rfl
  | cons c more =>
      have hprefix : needle.isPrefixOf (c :: more) := List.isPrefixOf_iff_prefix.2 ⟨rest, h⟩
      rw [Text.indexOf?, if_pos hprefix]

/-- The text stands in another one at this offset, wholly inside it. -/
def Text.StandsAt (needle text : Text) (offset : Nat) : Prop :=
  offset + needle.length ≤ text.length ∧ (text.drop offset).take needle.length = needle

/-- Whether a text stands at an offset is decided by reading it there. -/
instance (needle text : Text) (offset : Nat) : Decidable (Text.StandsAt needle text offset) :=
  inferInstanceAs (Decidable (_ ∧ _))

/-- A text stands at the very front of the texts that begin with it. -/
theorem Text.standsAt_zero_iff {needle text : Text} :
    Text.StandsAt needle text 0 ↔ needle <+: text := by
  unfold Text.StandsAt
  rw [Nat.zero_add, List.drop_zero, List.prefix_iff_eq_take]
  constructor
  · rintro ⟨-, htake⟩
    exact htake.symm
  · intro htake
    have hlength := congrArg List.length htake
    rw [List.length_take] at hlength
    exact ⟨by omega, htake.symm⟩

/-- Behind the first character, a text stands where it stands in the rest. -/
theorem Text.standsAt_succ_iff {needle rest : Text} {c : Char} {offset : Nat} :
    Text.StandsAt needle (c :: rest) (offset + 1) ↔ Text.StandsAt needle rest offset := by
  unfold Text.StandsAt
  rw [List.drop_succ_cons, List.length_cons]
  constructor
  · rintro ⟨hinside, hread⟩
    exact ⟨by omega, hread⟩
  · rintro ⟨hinside, hread⟩
    exact ⟨by omega, hread⟩

/-- The offset that a search answers is the least one at which the text stands. -/
theorem Text.indexOf?_eq_some_iff {needle text : Text} {offset : Nat} :
    Text.indexOf? needle text = some offset ↔
      Text.StandsAt needle text offset ∧ ∀ other < offset, ¬ Text.StandsAt needle text other := by
  induction text generalizing offset with
  | nil =>
      have hempty : ∀ other, Text.StandsAt needle [] other ↔ other = 0 ∧ needle = [] := by
        intro other
        cases needle <;> simp [Text.StandsAt]
      simp only [Text.indexOf?, Option.ite_none_right_eq_some, Option.some.injEq, hempty]
      constructor
      · rintro ⟨hneedle, rfl⟩
        exact ⟨⟨rfl, hneedle⟩, fun other hother => absurd hother (Nat.not_lt_zero other)⟩
      · rintro ⟨⟨rfl, hneedle⟩, -⟩
        exact ⟨hneedle, rfl⟩
  | cons c rest ih =>
      rw [Text.indexOf?]
      by_cases hfront : needle <+: c :: rest
      · have hzero := Text.standsAt_zero_iff.2 hfront
        rw [if_pos (List.isPrefixOf_iff_prefix.2 hfront), Option.some.injEq]
        constructor
        · rintro rfl
          exact ⟨hzero, fun other hother => absurd hother (Nat.not_lt_zero other)⟩
        · rintro ⟨-, hleast⟩
          by_contra hne
          exact hleast 0 (by omega) hzero
      · have hzero : ¬ Text.StandsAt needle (c :: rest) 0 := mt Text.standsAt_zero_iff.1 hfront
        rw [if_neg (mt List.isPrefixOf_iff_prefix.1 hfront), Option.map_eq_some_iff]
        constructor
        · rintro ⟨found, hfound, rfl⟩
          obtain ⟨hstands, hleast⟩ := ih.1 hfound
          refine ⟨Text.standsAt_succ_iff.2 hstands, ?_⟩
          intro other hother hother'
          cases other with
          | zero => exact hzero hother'
          | succ other => exact hleast other (by omega) (Text.standsAt_succ_iff.1 hother')
        · rintro ⟨hstands, hleast⟩
          cases offset with
          | zero => exact absurd hstands hzero
          | succ found =>
              refine ⟨found, ih.2 ⟨Text.standsAt_succ_iff.1 hstands, ?_⟩, rfl⟩
              intro other hother hother'
              exact hleast (other + 1) (by omega) (Text.standsAt_succ_iff.2 hother')

/-- A search answers nothing when the text stands nowhere. -/
theorem Text.indexOf?_eq_none_iff {needle text : Text} :
    Text.indexOf? needle text = none ↔ ∀ offset, ¬ Text.StandsAt needle text offset := by
  constructor
  · intro hnone offset hstands
    have hinfix : needle <:+: text := by
      rw [← hstands.2]
      exact (List.take_prefix _ _).isInfix.trans (List.drop_suffix _ _).isInfix
    have hsome := Text.isSome_indexOf?_iff.2 hinfix
    rw [hnone] at hsome
    cases hsome
  · intro hnowhere
    cases hindex : Text.indexOf? needle text with
    | none => rfl
    | some offset => exact absurd (Text.indexOf?_eq_some_iff.1 hindex).1 (hnowhere offset)

/-- A literal at the front of a window is cut off and nothing in front of it. -/
theorem Window.chopThroughText_rest {w : Window} {literal rest : Text}
    (h : w.text = literal ++ rest) : (w.chopThroughText literal).rest = w.drop literal.length := by
  rw [chopThroughText, h, Text.indexOf?_append]
  simp [Cut.front]

/-- Where a run of clusters is found, it stands, and it spells the delimiter. -/
theorem exists_append_of_beforeRun {count : Nat} {delimiter : Text} {clusters before : List Text}
    (h : beforeRun count delimiter clusters = some before) :
    ∃ run after, clusters = before ++ (run ++ after) ∧ run.flatten = delimiter := by
  induction clusters generalizing before with
  | nil =>
      simp only [beforeRun, Option.ite_none_right_eq_some, Option.some.injEq] at h
      obtain ⟨rfl, rfl⟩ := h
      exact ⟨[], [], rfl, rfl⟩
  | cons cluster later ih =>
      rw [beforeRun] at h
      split at h
      · next hrun =>
          cases h
          exact ⟨_, (cluster :: later).drop count, (List.take_append_drop count _).symm, hrun⟩
      · obtain ⟨front, hfront, rfl⟩ := Option.map_eq_some_iff.1 h
        obtain ⟨run, after, rfl, hrun⟩ := ih hfront
        exact ⟨run, after, rfl, hrun⟩

/-- Where a run of clusters stands behind some clusters, one that spells the same is found there or
further in front. -/
theorem exists_beforeRun_isPrefix (front run back : List Text) :
    ∃ before, beforeRun run.length run.flatten (front ++ (run ++ back)) = some before ∧
      before <+: front := by
  induction front with
  | nil =>
      refine ⟨[], ?_, List.prefix_rfl⟩
      rw [List.nil_append]
      cases hclusters : run ++ back with
      | nil =>
          obtain ⟨rfl, -⟩ := List.append_eq_nil_iff.1 hclusters
          rfl
      | cons cluster later => rw [beforeRun, ← hclusters, List.take_left, if_pos rfl]
  | cons cluster later ih =>
      obtain ⟨before, hbefore, hprefix⟩ := ih
      rw [List.cons_append, beforeRun]
      split
      · exact ⟨[], rfl, List.nil_prefix⟩
      · refine ⟨cluster :: before, ?_, List.cons_prefix_cons.2 ⟨rfl, hprefix⟩⟩
        rw [hbefore, Option.map_some]

/-- A run of clusters that stands somewhere is found. -/
theorem isSome_beforeRun_of_infix {run clusters : List Text} (h : run <:+: clusters) :
    (beforeRun run.length run.flatten clusters).isSome := by
  obtain ⟨front, back, rfl⟩ := h
  obtain ⟨before, hbefore, -⟩ := exists_beforeRun_isPrefix front run back
  rw [List.append_assoc, hbefore]
  rfl

namespace Segmenter

/-- The delimiter stands in the text with a boundary on either side of it: its clusters are a run
of those of the text. -/
def Occurs (segmenter : Segmenter) (delimiter text : Text) : Prop :=
  segmenter.clusters delimiter <:+: segmenter.clusters text

/-- A run can be compared with every stretch of the clusters. -/
instance (segmenter : Segmenter) (delimiter text : Text) :
    Decidable (segmenter.Occurs delimiter text) :=
  inferInstanceAs (Decidable (_ <:+: _))

/-- The clusters in front of a run that spells a delimiter, the clusters of the delimiter alone,
and the clusters behind it are those of the text. -/
theorem clusters_eq_of_beforeRun {segmenter : Segmenter} {count : Nat} {delimiter text : Text}
    {before : List Text}
    (h : beforeRun count delimiter (segmenter.clusters text) = some before) :
    ∃ after, segmenter.clusters text =
      before ++ (segmenter.clusters delimiter ++ after) := by
  obtain ⟨run, after, hclusters, rfl⟩ := exists_append_of_beforeRun h
  have hrun : segmenter.clusters run.flatten = run := segmenter.rule.clusters_infix hclusters
  exact ⟨after, by rw [hrun, hclusters]⟩

/-- A run with as many clusters as a delimiter has alone is found exactly when the delimiter occurs
between boundaries. -/
theorem isSome_beforeRun_iff {segmenter : Segmenter} {delimiter text : Text} :
    (beforeRun (segmenter.clusters delimiter).length delimiter (segmenter.clusters text)).isSome ↔
      segmenter.Occurs delimiter text := by
  constructor
  · intro h
    obtain ⟨before, hbefore⟩ := Option.isSome_iff_exists.1 h
    obtain ⟨after, hclusters⟩ := clusters_eq_of_beforeRun hbefore
    exact ⟨before, after, by rw [hclusters, List.append_assoc]⟩
  · intro h
    have hfound := isSome_beforeRun_of_infix h
    rwa [clusters, ClusterRule.flatten_clusters] at hfound

/-- With code points for clusters, the search over clusters is the search over characters. -/
theorem beforeRun_codePoints (needle text : Text) :
    (beforeRun (codePoints.clusters needle).length needle (codePoints.clusters text)).map extent =
      Text.indexOf? needle text := by
  rw [clusters_codePoints, clusters_codePoints, List.length_map]
  induction text with
  | nil =>
      rw [List.map_nil, beforeRun, Text.indexOf?]
      split <;> rfl
  | cons c rest ih =>
      have hrun : (([c] :: rest.map ([·])).take needle.length).flatten = needle ↔
          needle.isPrefixOf (c :: rest) := by
        rw [← List.map_cons (f := ([·])), ← List.map_take, Text.flatten_map_singleton,
          List.isPrefixOf_iff_prefix, List.prefix_iff_eq_take, eq_comm]
      rw [List.map_cons, beforeRun, Text.indexOf?]
      by_cases hfront : needle.isPrefixOf (c :: rest)
      · rw [if_pos (hrun.2 hfront), if_pos hfront]
        rfl
      · rw [if_neg (mt hrun.1 hfront), if_neg hfront, ← ih, Option.map_map, Option.map_map]
        rfl

end Segmenter

end TextCursor
