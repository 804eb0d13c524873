import Mathlib.Data.List.Chain
import Mathlib.Data.List.TakeWhile
import TextCursor.Proofs.Segmentation.LookBack

/-!
# Segmentations as partitions

The intervals of the clusters of a text leave no gap in it, do not overlap, and none of them is
empty (`Segmenter.Tiles`). Where they meet is, for extended grapheme clusters, what the list of
boundary rules says: `Grapheme.BoundaryRule.inOrder` holds the eight rules, each with the condition
under which it applies as it is usually written, as a pattern on the classes of the whole text in
front and of the character behind. `Grapheme.firstBreaks_iff_rulesBreak` relates the patterns to
looking back, and `Segmenter.spans_tile_by_rules` puts both together.
-/

namespace TextCursor

open Unicode

namespace Grapheme

/-- The rules for a boundary between two neighbouring characters. -/
inductive BoundaryRule where
  | lineEnd
  | control
  | syllable
  | mark
  | prepended
  | pictographs
  | flag
  | otherwise
  deriving DecidableEq

namespace BoundaryRule

/-- The rules in the order in which they are asked. -/
def inOrder : List BoundaryRule :=
  [lineEnd, control, syllable, mark, prepended, pictographs, flag, otherwise]

/-- The rule puts a boundary where it decides. The others keep the neighbours together. -/
def breaks : BoundaryRule → Bool
  | control | otherwise => true
  | lineEnd | syllable | mark | prepended | pictographs | flag => false

/-- The rule applies between a character of class `last` and one of class `next`, where the
characters in front of them have the classes `earlier`. -/
def Applies (earlier : List BreakClass) (last next : BreakClass) : BoundaryRule → Prop
  | lineEnd => last = .carriageReturn ∧ next = .lineFeed
  | control =>
      last ∈ [.control, .carriageReturn, .lineFeed] ∨
        next ∈ [.control, .carriageReturn, .lineFeed]
  | syllable =>
      (last = .leadingJamo ∧
        next ∈ [.leadingJamo, .vowelJamo, .openSyllable, .closedSyllable]) ∨
      (last ∈ [.openSyllable, .vowelJamo] ∧ next ∈ [.vowelJamo, .trailingJamo]) ∨
      (last ∈ [.closedSyllable, .trailingJamo] ∧ next = .trailingJamo)
  | mark => next ∈ [.extend, .joiner, .spacingMark]
  | prepended => last = .prepend
  | pictographs =>
      last = .joiner ∧ next = .pictograph ∧
        ∃ front marks, earlier = front ++ .pictograph :: marks ∧ ∀ cls ∈ marks, cls = .extend
  | flag =>
      next = .regional ∧
        ∃ front run, earlier ++ [last] = front ++ run ∧ front.getLast? ≠ some .regional ∧
          (∀ cls ∈ run, cls = .regional) ∧ run.length % 2 = 1
  | otherwise => True

end BoundaryRule

/-- Of some rules, the first one that applies between the neighbours puts a boundary there. -/
def FirstBreaks (rules : List BoundaryRule) (earlier : List BreakClass)
    (last next : BreakClass) : Prop :=
  ∃ passed rule further, rules = passed ++ rule :: further ∧
    (∀ other ∈ passed, ¬ other.Applies earlier last next) ∧
    rule.Applies earlier last next ∧ rule.breaks

variable {earlier : List BreakClass} {last next : BreakClass} {rule : BoundaryRule}
  {later : List BoundaryRule}

/-- A rule that applies decides. -/
theorem firstBreaks_cons_of_applies (h : rule.Applies earlier last next) :
    FirstBreaks (rule :: later) earlier last next ↔ rule.breaks := by
  constructor
  · rintro ⟨passed, decisive, further, hrules, hpassed, -, hbreaks⟩
    cases passed with
    | nil =>
        obtain ⟨rfl, -⟩ := List.cons.inj hrules
        exact hbreaks
    | cons other others =>
        obtain ⟨rfl, -⟩ := List.cons.inj hrules
        exact absurd h (hpassed _ List.mem_cons_self)
  · intro hbreaks
    refine ⟨[], rule, later, rfl, ?_, h, hbreaks⟩
    intro other hother
    cases hother

/-- A rule that does not apply leaves the decision to the rules behind it. -/
theorem firstBreaks_cons_of_not_applies (h : ¬ rule.Applies earlier last next) :
    FirstBreaks (rule :: later) earlier last next ↔ FirstBreaks later earlier last next := by
  constructor
  · rintro ⟨passed, decisive, further, hrules, hpassed, happlies, hbreaks⟩
    cases passed with
    | nil =>
        obtain ⟨rfl, -⟩ := List.cons.inj hrules
        exact absurd happlies h
    | cons other others =>
        obtain ⟨-, hlater⟩ := List.cons.inj hrules
        exact ⟨others, decisive, further, hlater,
          fun rule hrule => hpassed rule (List.mem_cons_of_mem _ hrule), happlies, hbreaks⟩
  · rintro ⟨passed, decisive, further, rfl, hpassed, happlies, hbreaks⟩
    refine ⟨rule :: passed, decisive, further, rfl, ?_, happlies, hbreaks⟩
    exact List.forall_mem_cons.2 ⟨h, hpassed⟩

/-- What the first rule decides where it applies, and the rules behind it where it does not. -/
theorem firstBreaks_cons_iff {condition : Prop} [Decidable condition] {rest : Bool}
    (hrule : rule.Applies earlier last next ↔ condition)
    (hlater : FirstBreaks later earlier last next ↔ rest) :
    FirstBreaks (rule :: later) earlier last next ↔ if condition then rule.breaks else rest := by
  by_cases happlies : rule.Applies earlier last next
  · rw [firstBreaks_cons_of_applies happlies, if_pos (hrule.1 happlies)]
  · rw [firstBreaks_cons_of_not_applies happlies, if_neg fun h => happlies (hrule.2 h), hlater]

/-- Going back over classes for as long as they pass a test, one passes over the run of them at the
end and stops at what stands in front. -/
theorem reverse_split (test : BreakClass → Bool) {front run : List BreakClass}
    (hrun : ∀ cls ∈ run, test cls) (hfront : ∀ cls ∈ front.getLast?, ¬ test cls) :
    (front ++ run).reverse.takeWhile test = run.reverse ∧
      (front ++ run).reverse.dropWhile test = front.reverse := by
  have hback : ∀ cls ∈ run.reverse, test cls := by simpa using hrun
  rw [List.reverse_append, List.takeWhile_append_of_pos hback, List.dropWhile_append_of_pos hback]
  cases hreverse : front.reverse with
  | nil => simp
  | cons cls others =>
      have hlast : front.getLast? = some cls := by
        rw [← List.head?_reverse, hreverse, List.head?_cons]
      simp [hfront cls hlast]

/-- The run that one passes over, and what stands in front of it. -/
theorem exists_split (test : BreakClass → Bool) (classes : List BreakClass) :
    ∃ front run, classes = front ++ run ∧ (∀ cls ∈ run, test cls) ∧
      ∀ cls ∈ front.getLast?, ¬ test cls := by
  refine ⟨(classes.reverse.dropWhile test).reverse, (classes.reverse.takeWhile test).reverse,
    ?_, ?_, ?_⟩
  · rw [← List.reverse_append, List.takeWhile_append_dropWhile, List.reverse_reverse]
  · intro cls hcls
    exact List.mem_takeWhile_imp (List.mem_reverse.1 hcls)
  · intro cls hcls
    have hnot := List.head?_dropWhile_not test classes.reverse
    rw [List.getLast?_reverse] at hcls
    rw [hcls] at hnot
    simp [hnot]

/-- Looking back, a pictograph stands last, perhaps behind marks, exactly when the classes in
reading order end with one and marks. -/
theorem endsInPictograph_reverse_iff (classes : List BreakClass) :
    endsInPictograph classes.reverse ↔
      ∃ front marks, classes = front ++ .pictograph :: marks ∧ ∀ cls ∈ marks, cls = .extend := by
  constructor
  · intro hends
    obtain ⟨front, run, rfl, hrun, hfront⟩ := exists_split (· = .extend) classes
    rw [endsInPictograph, (reverse_split _ hrun hfront).2, List.head?_reverse,
      decide_eq_true_iff, List.getLast?_eq_some_iff] at hends
    obtain ⟨first, rfl⟩ := hends
    exact ⟨first, run, by simp, by simpa using hrun⟩
  · rintro ⟨first, marks, rfl, hmarks⟩
    have hlast : ∀ cls ∈ (first ++ [BreakClass.pictograph]).getLast?, ¬ decide (cls = .extend) := by
      simp
    have hsplit := (reverse_split (· = .extend) (by simpa using hmarks) hlast).2
    rw [List.append_assoc, List.singleton_append] at hsplit
    rw [endsInPictograph, hsplit]
    simp

/-- Looking back, an odd number of regional indicators stands last exactly when the classes in
reading order end with a run of that many which none of them stands in front of. -/
theorem oddRegionals_reverse_iff (classes : List BreakClass) :
    oddRegionals classes.reverse ↔
      ∃ front run, classes = front ++ run ∧ front.getLast? ≠ some .regional ∧
        (∀ cls ∈ run, cls = .regional) ∧ run.length % 2 = 1 := by
  constructor
  · intro hodd
    obtain ⟨front, run, rfl, hrun, hfront⟩ := exists_split (· = .regional) classes
    rw [oddRegionals, (reverse_split _ hrun hfront).1, List.length_reverse,
      decide_eq_true_iff] at hodd
    refine ⟨front, run, rfl, ?_, by simpa using hrun, hodd⟩
    intro hlast
    exact hfront _ hlast (decide_eq_true rfl)
  · rintro ⟨front, run, rfl, hfront, hrun, hodd⟩
    have hlast : ∀ cls ∈ front.getLast?, ¬ decide (cls = BreakClass.regional) := by
      intro cls hcls
      rw [decide_eq_true_iff]
      rintro rfl
      exact hfront hcls
    have hsplit := (reverse_split (· = .regional) (by simpa using hrun) hlast).1
    rw [oddRegionals, hsplit, List.length_reverse]
    exact decide_eq_true hodd

/-- The rule of pictographs applies where looking back finds a joined one. -/
theorem applies_pictographs_iff :
    BoundaryRule.pictographs.Applies earlier last next ↔
      endsInJoinedPictograph (last :: earlier.reverse) ∧ next = .pictograph := by
  rw [endsInJoinedPictograph_cons, endsInPictograph_reverse_iff, BoundaryRule.Applies]
  constructor
  · rintro ⟨hlast, hnext, hearlier⟩
    exact ⟨⟨hlast, hearlier⟩, hnext⟩
  · rintro ⟨⟨hlast, hearlier⟩, hnext⟩
    exact ⟨hlast, hnext, hearlier⟩

/-- The rule of flags applies where looking back finds an indicator without a partner. -/
theorem applies_flag_iff :
    BoundaryRule.flag.Applies earlier last next ↔
      oddRegionals (last :: earlier.reverse) ∧ next = .regional := by
  have hback : last :: earlier.reverse = (earlier ++ [last]).reverse := by simp
  rw [hback, oddRegionals_reverse_iff, BoundaryRule.Applies, and_comm]

/-- The rule of syllables applies between the jamo and syllables that continue each other. -/
theorem applies_syllable_iff :
    BoundaryRule.syllable.Applies earlier last next ↔ joinsSyllable last next := by
  cases last <;> cases next <;> simp [BoundaryRule.Applies, joinsSyllable]

/-- The rules as patterns, the first one that applies deciding, put the boundaries that are found
by looking back. -/
theorem firstBreaks_iff_rulesBreak (earlier : List BreakClass) (last next : BreakClass) :
    FirstBreaks BoundaryRule.inOrder earlier last next ↔
      rulesBreak (last :: earlier.reverse) next := by
  have hcontrol : BoundaryRule.control.Applies earlier last next ↔
      (last.standsAlone || next.standsAlone) := by
    cases last <;> cases next <;> simp [BoundaryRule.Applies, BreakClass.standsAlone]
  have hmark : BoundaryRule.mark.Applies earlier last next ↔ next.clings := by
    cases next <;> simp [BoundaryRule.Applies, BreakClass.clings]
  unfold BoundaryRule.inOrder rulesBreak
  refine firstBreaks_cons_iff Iff.rfl ?_
  refine firstBreaks_cons_iff hcontrol ?_
  refine firstBreaks_cons_iff applies_syllable_iff ?_
  refine firstBreaks_cons_iff hmark ?_
  refine firstBreaks_cons_iff Iff.rfl ?_
  refine firstBreaks_cons_iff applies_pictographs_iff ?_
  refine firstBreaks_cons_iff applies_flag_iff ?_
  exact firstBreaks_cons_of_applies trivial

end Grapheme

namespace Segmenter

/-- The intervals cover the offsets from `start` to `stop`: none is empty, they stand in order, each
begins where the one before it ends, and there is none exactly where there is nothing to cover. -/
structure Tiles (spans : List (Nat × Nat)) (start stop : Nat) : Prop where
  start_le_stop : start ≤ stop
  nonempty : ∀ span ∈ spans, span.1 < span.2
  ordered : spans.Pairwise fun span later => span.2 ≤ later.1
  consecutive : spans.IsChain fun span next => span.2 = next.1
  first : ∀ span ∈ spans.head?, span.1 = start
  last : ∀ span ∈ spans.getLast?, span.2 = stop
  eq_nil_iff : spans = [] ↔ start = stop

/-- No interval begins in front of the first offset that is covered. -/
theorem Tiles.start_le {spans : List (Nat × Nat)} {start stop : Nat} (h : Tiles spans start stop) :
    ∀ span ∈ spans, start ≤ span.1 := by
  intro span hspan
  cases spans with
  | nil => cases hspan
  | cons head others =>
      have hfirst : head.1 = start := h.first head rfl
      rcases List.mem_cons.1 hspan with rfl | hother
      · exact hfirst.ge
      · have hhead := h.nonempty head List.mem_cons_self
        have horder := (List.pairwise_cons.1 h.ordered).1 span hother
        omega

/-- An interval in front of those that cover the offsets behind it. -/
theorem Tiles.cons {spans : List (Nat × Nat)} {start middle stop : Nat}
    (h : Tiles spans middle stop) (hmiddle : start < middle) :
    Tiles ((start, middle) :: spans) start stop where
  start_le_stop := by
    have hstop := h.start_le_stop
    omega
  nonempty := List.forall_mem_cons.2 ⟨hmiddle, h.nonempty⟩
  ordered := List.pairwise_cons.2 ⟨h.start_le, h.ordered⟩
  consecutive := by
    cases spans with
    | nil => exact .singleton _
    | cons head others => exact .cons_cons (h.first head rfl).symm h.consecutive
  first := by
    intro span hspan
    cases hspan
    rfl
  last := by
    intro span hspan
    cases spans with
    | nil =>
        cases hspan
        exact h.eq_nil_iff.1 rfl
    | cons head others =>
        rw [List.getLast?_cons_cons] at hspan
        exact h.last span hspan
  eq_nil_iff := by
    have hstop := h.start_le_stop
    simp only [reduceCtorEq, false_iff]
    omega

/-- The intervals of clusters that are not empty cover as many offsets as these have characters. -/
theorem tiles_place {clusters : List Text} (h : ∀ cluster ∈ clusters, cluster ≠ [])
    (start : Nat) : Tiles (spans.place start clusters) start (start + clusters.flatten.length) := by
  induction clusters generalizing start with
  | nil =>
      constructor <;> simp [spans.place]
  | cons cluster later ih =>
      obtain ⟨hcluster, hlater⟩ := List.forall_mem_cons.1 h
      have hlength := List.length_pos_iff.2 hcluster
      have htiles := (ih hlater (start + cluster.length)).cons
        (Nat.lt_add_of_pos_right hlength : start < _)
      rw [List.flatten_cons, List.length_append, ← Nat.add_assoc]
      exact htiles

/-- A segmentation is an exact partition that follows the boundary rules. Whatever the segmenter,
the intervals of the clusters of a text cover it from its start to its end, none of them empty,
each one beginning where the one before it ends, and there is none for the empty text. Between any
two neighbouring characters, extended grapheme clusters have a boundary just where the first rule
that applies puts one, its patterns being looked up in all of the text in front. -/
theorem spans_tile_by_rules :
    (∀ (segmenter : Segmenter) (text : Text), Tiles (segmenter.spans text) 0 text.length) ∧
    (∀ (front : Text) (last next : Char) (back : Text),
      graphemes.IsBoundary (front ++ last :: next :: back) (front.length + 1) ↔
        Grapheme.FirstBreaks Grapheme.BoundaryRule.inOrder (front.map BreakClass.ofChar)
          (.ofChar last) (.ofChar next)) := by
  constructor
  · intro segmenter text
    have htiles := tiles_place (segmenter.rule.ne_nil_of_mem_clusters text) 0
    rwa [ClusterRule.flatten_clusters, Nat.zero_add] at htiles
  · intro front last next back
    have hinside : front.length + 1 < (front ++ last :: next :: back).length := by
      simp
    have hbefore : (front ++ last :: next :: back).take (front.length + 1) = front ++ [last] := by
      simp [List.take_append, List.take_of_length_le]
    have hnext : (front ++ last :: next :: back)[front.length + 1] = next := by
      simp
    have hback : Grapheme.classesBack (front ++ [last]) =
        .ofChar last :: (front.map BreakClass.ofChar).reverse := by
      simp [Grapheme.classesBack]
    rw [isBoundary_iff_breaksBetween hinside, hbefore, hnext, breaksBetween, hback]
    exact (Grapheme.firstBreaks_iff_rulesBreak _ _ _).symm

/-- A line end, a letter with an accent, a family, and a flag behind a lone regional indicator. -/
example : graphemes.spans
    ['\r', '\n', 'e', '\u0301', '👩', '\u200D', '👧', '🇦', '🇩', '🇪'] =
      [(0, 2), (2, 4), (4, 7), (7, 9), (9, 10)] := by
  decide +kernel

end Segmenter

end TextCursor
