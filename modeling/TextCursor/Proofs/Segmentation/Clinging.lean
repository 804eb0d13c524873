import Mathlib.Data.List.Basic
import TextCursor.Proofs.Segmentation.Seam

/-!
# Runs of loose characters

Signs, digits, points and blanks are loose: each of them stands alone or is of no particular class,
so that it takes no part in syllables, flags or pictographs. What stands behind a run of loose
characters can only join the last one of them, when a mark clings to it (`Segmenter.released`), and
what stands in front of the run can only take the first one of them, when it is prepended
(`Segmenter.severed`). `clusters_released` and `clusters_severed` say that the rest of the run is
made of clusters of its own, and that the cluster next to it reaches across the edge of the run.
-/

namespace TextCursor

open Unicode

namespace Grapheme

/-- There is no boundary in front of a mark behind a character that does not stand alone. -/
theorem rulesBreak_clinging {back : List BreakClass} {last cls : BreakClass}
    (hlast : last.standsAlone = false) (hcls : cls.clings) :
    rulesBreak (last :: back) cls = false := by
  cases cls with
  | extend | joiner | spacingMark => cases last <;> first | rfl | cases hlast
  | carriageReturn | lineFeed | control | prepend | regional | leadingJamo | vowelJamo
  | trailingJamo | openSyllable | closedSyllable | pictograph | other => cases hcls

/-- There is no boundary between a prepended character and a plain one. -/
theorem rulesBreak_prepended (back : List BreakClass) :
    rulesBreak (.prepend :: back) .other = false := by
  rfl

end Grapheme

namespace Segmenter

/-- The character stands alone or is of no particular class. -/
def Loose (c : Char) : Prop :=
  (BreakClass.ofChar c).standsAlone ∨ BreakClass.ofChar c = .other

/-- A mark or a joiner stands first in the text. -/
def Clinging (text : Text) : Prop :=
  ∃ c ∈ text.head?, (BreakClass.ofChar c).clings

/-- A character that does not stand alone stands first in the text. -/
def Joinable (text : Text) : Prop :=
  ∃ c ∈ text.head?, (BreakClass.ofChar c).standsAlone = false

/-- A mark or a joiner stands first in `back`, behind a character that does not stand alone. -/
def Clings (front back : Text) : Prop :=
  ∃ b ∈ front.getLast?, (BreakClass.ofChar b).standsAlone = false ∧ Clinging back

/-- A prepended character stands last in `front`, in front of one that does not stand alone. -/
def Prepends (front back : Text) : Prop :=
  ∃ c ∈ front.getLast?, BreakClass.ofChar c = .prepend ∧ Joinable back

/-- No line end is parted between the two texts. -/
def KeepsLineEnds (front back : Text) : Prop :=
  ∀ b ∈ front.getLast?, ∀ c ∈ back.head?,
    ¬ (BreakClass.ofChar b = .carriageReturn ∧ BreakClass.ofChar c = .lineFeed)

/-- Whether a text begins with a mark is decided on its first character. -/
instance (text : Text) : Decidable (Clinging text) :=
  Option.decidableExistsMem text.head?

/-- Whether a text can be joined in front is decided on its first character. -/
instance (text : Text) : Decidable (Joinable text) :=
  Option.decidableExistsMem text.head?

/-- What clings is seen on two characters. -/
instance (front back : Text) : Decidable (Clings front back) :=
  Option.decidableExistsMem front.getLast?

/-- What is prepended is seen on two characters. -/
instance (front back : Text) : Decidable (Prepends front back) :=
  Option.decidableExistsMem front.getLast?

/-- The run without its last character if what stands behind it clings to that one. -/
def released (run back : Text) : Text :=
  if Clings run back then run.dropLast else run

/-- The run without its first character if what stands in front of it takes that one. -/
def severed (front run : Text) : Text :=
  if Prepends front run then run.tail else run

variable {front back run : Text} {a b c : Char}

/-- What is released of a run stands in front of it. -/
theorem released_isPrefix (run back : Text) : released run back <+: run := by
  unfold released
  split
  · exact List.dropLast_prefix run
  · exact List.prefix_refl run

/-- What is severed from the text in front of a run stands at the back of the run. -/
theorem severed_isSuffix (front run : Text) : severed front run <:+ run := by
  unfold severed
  split
  · exact List.tail_suffix run
  · exact List.suffix_refl run

/-- Nothing clings to a run at the end of a text. -/
theorem released_nil (run : Text) : released run [] = run := by
  unfold released
  rw [if_neg]
  rintro ⟨-, -, -, c, hc, -⟩
  cases hc

/-- Nothing takes the first character of a run at the start of a text. -/
theorem severed_nil (run : Text) : severed [] run = run := by
  unfold severed
  rw [if_neg]
  rintro ⟨c, hc, -⟩
  cases hc

/-- A loose character that does not stand alone is plain. -/
theorem Loose.plain (h : Loose c) (halone : (BreakClass.ofChar c).standsAlone = false) :
    BreakClass.ofChar c = .other := by
  rcases h with hloose | hplain
  · rw [halone] at hloose
    cases hloose
  · exact hplain

/-- A loose character clings to nothing. -/
theorem Loose.not_clings (h : Loose c) : (BreakClass.ofChar c).clings = false := by
  rcases h with hloose | hplain
  · cases hclass : BreakClass.ofChar c <;> first | rfl | (rw [hclass] at hloose; cases hloose)
  · rw [hplain]
    rfl

/-- A loose character is not prepended. -/
theorem Loose.not_prepend (h : Loose c) : BreakClass.ofChar c ≠ .prepend := by
  intro hprepend
  rcases h with hloose | hplain
  · rw [hprepend] at hloose
    cases hloose
  · rw [hprepend] at hplain
    cases hplain

/-- A blank character is loose. -/
theorem loose_of_isBlank (h : isBlank c) : Loose c :=
  BreakClass.ofChar_blank h

/-- Behind a loose character there is a boundary unless what follows clings to it. -/
theorem clusters_append_of_not_clings (hb : Loose b) (hclings : ¬ Clings (front ++ [b]) (c :: back))
    (hends : KeepsLineEnds (front ++ [b]) (c :: back)) :
    graphemes.clusters (front ++ [b] ++ c :: back) =
      graphemes.clusters (front ++ [b]) ++ graphemes.clusters (c :: back) := by
  apply clusters_append_of_rulesBreak
  rw [Grapheme.classesBack_concat]
  have hlast : b ∈ (front ++ [b]).getLast? := List.getLast?_concat
  by_cases halone : (BreakClass.ofChar b).standsAlone
  · exact Grapheme.rulesBreak_of_standsAlone (.inl halone) (hends b hlast c rfl)
  · rw [Bool.not_eq_true] at halone
    have hc : (BreakClass.ofChar c).clings = false := by
      rw [← Bool.not_eq_true]
      exact fun hc => hclings ⟨b, hlast, halone, c, rfl, hc⟩
    rw [hb.plain halone]
    exact Grapheme.rulesBreak_behind_plain hc

/-- In front of a plain character there is a boundary behind loose ones. -/
theorem clusters_append_plain (hfront : ∀ a ∈ front, Loose a)
    (hb : BreakClass.ofChar b = .other) :
    graphemes.clusters (front ++ b :: back) =
      graphemes.clusters front ++ graphemes.clusters (b :: back) := by
  rcases List.eq_nil_or_concat' front with rfl | ⟨init, a, rfl⟩
  · rfl
  · apply clusters_append_of_rulesBreak
    rw [Grapheme.classesBack_concat, hb]
    exact Grapheme.rulesBreak_before_plain (hfront a (by simp)).not_prepend

/-- A mark behind a plain character stands in the cluster that this one begins. -/
theorem exists_clusters_cons_clinging (hb : (BreakClass.ofChar b).standsAlone = false)
    (hc : (BreakClass.ofChar c).clings) (back : Text) :
    ∃ more later, graphemes.clusters (b :: c :: back) = (b :: c :: more) :: later := by
  have hjoin : ∃ joined, ClusterRule.grapheme.join (ClusterRule.grapheme.first b) c =
      some joined := by
    rw [← Option.isSome_iff_exists, ← Option.ne_none_iff_isSome]
    intro hnone
    have hbreaks : ClusterRule.grapheme.BreaksBefore [b] c := hnone
    rw [Grapheme.breaksBefore_iff_rulesBreak] at hbreaks
    have hkept : Grapheme.rulesBreak [.ofChar b] (.ofChar c) = false :=
      Grapheme.rulesBreak_clinging hb hc
    rw [show Grapheme.classesBack [b] = [.ofChar b] from rfl, hkept] at hbreaks
    cases hbreaks
  obtain ⟨joined, hjoined⟩ := hjoin
  refine ⟨(ClusterRule.grapheme.cutAfter joined back).1,
    (ClusterRule.grapheme.cutAfter joined back).2, ?_⟩
  show ClusterRule.grapheme.clusters (b :: c :: back) = _
  simp only [ClusterRule.clusters, ClusterRule.cutAfter, hjoined]

/-- Behind a run of loose characters, less the last one where something clings to it, there is a
boundary, and the next cluster has the first character behind the run in it. -/
theorem clusters_released (hrun : ∀ a ∈ run, Loose a) (hends : KeepsLineEnds run back) :
    ∃ others, graphemes.clusters (run ++ back) =
        graphemes.clusters (released run back) ++ others ∧
      ∀ cluster ∈ others.head?, ∃ c ∈ back.head?, c ∈ cluster := by
  unfold released
  by_cases hclings : Clings run back
  · rw [if_pos hclings]
    obtain ⟨b, hb, halone, c, hc, hmark⟩ := hclings
    obtain ⟨init, rfl⟩ := List.getLast?_eq_some_iff.1 hb
    obtain ⟨later, rfl⟩ := List.head?_eq_some_iff.1 hc
    obtain ⟨more, others, hclusters⟩ := exists_clusters_cons_clinging halone hmark later
    have hplain := (hrun b (by simp)).plain halone
    have hinit : ∀ a ∈ init, Loose a := fun a ha => hrun a (List.mem_append_left _ ha)
    refine ⟨(b :: c :: more) :: others, ?_, ?_⟩
    · rw [List.dropLast_concat, List.append_assoc, List.singleton_append,
        clusters_append_plain hinit hplain, hclusters]
    · intro cluster hcluster
      cases hcluster
      exact ⟨c, hc, by simp⟩
  · rw [if_neg hclings]
    refine ⟨graphemes.clusters back, ?_, ?_⟩
    · cases back with
      | nil => simp [Segmenter.clusters, ClusterRule.clusters]
      | cons c later =>
          rcases List.eq_nil_or_concat' run with rfl | ⟨init, b, rfl⟩
          · rfl
          · exact clusters_append_of_not_clings (hrun b (by simp)) hclings hends
    · intro cluster hcluster
      cases back with
      | nil => cases hcluster
      | cons c later =>
          cases hcluster
          exact ⟨c, rfl, List.mem_cons_self⟩

/-- The last character of a text stands in its last cluster. -/
theorem mem_of_mem_getLast (segmenter : Segmenter) (text : Text) :
    ∀ cluster ∈ (segmenter.clusters text).getLast?, ∃ c ∈ text.getLast?, c ∈ cluster := by
  intro cluster hcluster
  obtain ⟨earlier, hearlier⟩ := List.getLast?_eq_some_iff.1 hcluster
  have hne := segmenter.rule.ne_nil_of_mem_clusters text cluster (List.mem_of_getLast? hcluster)
  have htext : text = earlier.flatten ++ cluster := by
    rw [← segmenter.flatten_clusters text, hearlier, List.flatten_append, List.flatten_singleton]
  obtain ⟨more, c, rfl⟩ := (List.eq_nil_or_concat' cluster).resolve_left hne
  refine ⟨c, ?_, by simp⟩
  rw [htext, ← List.append_assoc]
  exact List.getLast?_concat

/-- A character in front of the last one of a text stands in its last cluster where there is no
boundary between the two. -/
theorem mem_of_not_rulesBreak
    (h : Grapheme.rulesBreak (.ofChar a :: Grapheme.classesBack front) (.ofChar b) = false) :
    ∀ cluster ∈ (graphemes.clusters (front ++ [a] ++ [b])).getLast?, a ∈ cluster := by
  intro cluster hcluster
  obtain ⟨earlier, hearlier⟩ := List.getLast?_eq_some_iff.1 hcluster
  have htext : earlier.flatten ++ cluster = front ++ [a] ++ [b] := by
    rw [← graphemes.flatten_clusters (front ++ [a] ++ [b]), hearlier, List.flatten_append,
      List.flatten_singleton]
  have hne := graphemes.rule.ne_nil_of_mem_clusters _ cluster (List.mem_of_getLast? hcluster)
  obtain ⟨more, d, rfl⟩ := (List.eq_nil_or_concat' cluster).resolve_left hne
  rw [← List.append_assoc] at htext
  obtain ⟨hfront, -⟩ := List.append_inj' htext rfl
  rcases List.eq_nil_or_concat' more with rfl | ⟨others, e, rfl⟩
  · -- the last character alone would begin a cluster
    have hbreaks : graphemes.rule.BreaksBefore (front ++ [a]) b := by
      rw [← ClusterRule.clusters_come_apart_iff _ _ _ []]
      exact ⟨earlier, _, hearlier, by simpa using hfront⟩
    have hrules := (Grapheme.breaksBefore_iff_rulesBreak _ _).1 hbreaks
    rw [Grapheme.classesBack_concat, h] at hrules
    cases hrules
  · rw [← List.append_assoc] at hfront
    obtain ⟨-, he⟩ := List.append_inj' hfront rfl
    cases he
    simp

/-- In front of a run of loose characters, less the first one where it is taken from in front, there
is a boundary, and the cluster before it has the last character in front of the run in it. -/
theorem clusters_severed (hrun : ∀ b ∈ run, Loose b) (hends : KeepsLineEnds front run) :
    ∃ others, graphemes.clusters (front ++ run) =
        others ++ graphemes.clusters (severed front run) ∧
      ∀ cluster ∈ others.getLast?, ∃ c ∈ front.getLast?, c ∈ cluster := by
  unfold severed
  by_cases hprepends : Prepends front run
  · rw [if_pos hprepends]
    obtain ⟨c, hc, hprepend, b, hb, halone⟩ := hprepends
    obtain ⟨init, rfl⟩ := List.getLast?_eq_some_iff.1 hc
    obtain ⟨later, rfl⟩ := List.head?_eq_some_iff.1 hb
    obtain ⟨hloose, hlater⟩ := List.forall_mem_cons.1 hrun
    have hplain := hloose.plain halone
    refine ⟨graphemes.clusters (init ++ [c] ++ [b]), ?_, ?_⟩
    · cases later with
      | nil => simp [Segmenter.clusters, ClusterRule.clusters]
      | cons d further =>
          have hapart : graphemes.clusters (init ++ [c] ++ [b] ++ d :: further) = _ :=
            clusters_append_of_not_clings hloose ?_ ?_
          · simpa using hapart
          · rintro ⟨-, -, -, e, he, hmark⟩
            cases he
            rw [(hlater d List.mem_cons_self).not_clings] at hmark
            cases hmark
          · rintro e he - - ⟨hreturn, -⟩
            rw [List.getLast?_concat] at he
            cases he
            rw [hplain] at hreturn
            cases hreturn
    · intro cluster hcluster
      refine ⟨c, hc, mem_of_not_rulesBreak ?_ cluster hcluster⟩
      rw [hprepend, hplain]
      exact Grapheme.rulesBreak_prepended _
  · rw [if_neg hprepends]
    refine ⟨graphemes.clusters front, ?_, mem_of_mem_getLast graphemes front⟩
    cases run with
    | nil => simp [Segmenter.clusters, ClusterRule.clusters]
    | cons b later =>
        rcases List.eq_nil_or_concat' front with rfl | ⟨init, c, rfl⟩
        · rfl
        · apply clusters_append_of_rulesBreak
          rw [Grapheme.classesBack_concat]
          have hlast : c ∈ (init ++ [c]).getLast? := List.getLast?_concat
          by_cases halone : (BreakClass.ofChar b).standsAlone
          · exact Grapheme.rulesBreak_of_standsAlone (.inr halone) (hends c hlast b rfl)
          · rw [Bool.not_eq_true] at halone
            rw [(hrun b List.mem_cons_self).plain halone]
            apply Grapheme.rulesBreak_before_plain
            exact fun hprepend => hprepends ⟨c, hlast, hprepend, b, rfl, halone⟩

end Segmenter

end TextCursor
