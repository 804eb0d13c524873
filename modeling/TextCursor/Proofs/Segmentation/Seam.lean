import Mathlib.Logic.Basic
import TextCursor.Proofs.Segmentation.LookBack
import TextCursor.Segmentation.ClusterTest

/-!
# Seams between texts

Where one text ends and another begins, the classes of a few characters at the seam tell whether
the clusters of both together are those of the one and then those of the other. Plain characters,
which digits, signs and most blanks are, make clusters of their own unless something clings to them
(`clusters_cons_plain`). A blank character behind a text without blanks begins a cluster, and that
cluster is blank (`clusters_append_blank`, `isBlank_of_mem_head`).
-/

namespace TextCursor

namespace Unicode

namespace BreakClass

/-- Whatever holds of the characters of a range of code points holds of a character whose code
point lies in it. -/
theorem of_range (p : Char → Prop) {first last : Nat} {c : Char}
    (h : ∀ i < last + 1 - first, p (Char.ofNat (first + i))) (hfirst : first ≤ c.toNat)
    (hlast : c.toNat ≤ last) : p c := by
  have hc := h (c.toNat - first) (by omega)
  rwa [Nat.add_sub_cancel' hfirst, Char.ofNat_toNat] at hc

/-- A decimal digit of ASCII is of no particular class. -/
theorem ofChar_digit {c : Char} (h : c.isDigit) : ofChar c = .other := by
  have hclasses : ∀ i < 57 + 1 - 48, ofChar (Char.ofNat (48 + i)) = .other := by decide
  obtain ⟨hfirst, hlast⟩ := Char.isDigit_iff_toNat.1 h
  exact of_range (ofChar · = .other) hclasses hfirst hlast

/-- A blank character stands alone or is of no particular class. -/
theorem ofChar_blank {c : Char} (h : isBlank c) : (ofChar c).standsAlone ∨ ofChar c = .other := by
  have hclasses : ∀ range ∈ blankPoints.ranges, ∀ i < range.last + 1 - range.first,
      (ofChar (Char.ofNat (range.first + i))).standsAlone ∨
        ofChar (Char.ofNat (range.first + i)) = .other := by
    decide +kernel
  obtain ⟨range, hmem, hfirst, hlast⟩ := (blankPoints.holds_iff _).1 h
  exact of_range (fun c => (ofChar c).standsAlone ∨ ofChar c = .other)
    (hclasses range hmem) hfirst hlast

/-- The two characters of a line end are the only ones of their classes, and they are blank. -/
theorem isBlank_of_lineEnd {c : Char} (h : ofChar c = .carriageReturn ∨ ofChar c = .lineFeed) :
    isBlank c := by
  have hcode : c.toNat = 0x0D ∨ c.toNat = 0x0A := by
    simp only [ofChar, ite_eq_iff, reduceCtorEq, and_false, false_or, and_true, or_false] at h
    rcases h with hreturn | ⟨-, hfeed⟩
    · exact .inl hreturn
    · exact .inr hfeed
  unfold isBlank
  rcases hcode with hcode | hcode <;> rw [hcode] <;> rfl

end BreakClass

end Unicode

open Unicode

/-- Text that has a character in it that is not blank is not blank. -/
theorem Cluster.not_isBlank_of_mem {cluster : Text} {c : Char} (hc : c ∈ cluster)
    (h : Unicode.isBlank c = false) : ¬ Cluster.isBlank cluster := by
  intro hblank
  have hall := List.all_eq_true.1 (Bool.and_eq_true_iff.1 hblank).2 c hc
  rw [h] at hall
  cases hall

namespace Grapheme

variable {back : List BreakClass} {last cls : BreakClass}

/-- Looking back from the end of a text, its last character comes first. -/
theorem classesBack_concat (front : Text) (c : Char) :
    classesBack (front ++ [c]) = .ofChar c :: classesBack front := by
  simp [classesBack]

/-- There is a boundary on either side of a character that stands alone, except inside a line
end. -/
theorem rulesBreak_of_standsAlone (h : last.standsAlone ∨ cls.standsAlone)
    (hend : ¬ (last = .carriageReturn ∧ cls = .lineFeed)) : rulesBreak (last :: back) cls := by
  rw [rulesBreak, if_neg hend, if_pos (Bool.or_eq_true_iff.2 h)]

/-- There is a boundary behind a plain character unless what follows clings to it. -/
theorem rulesBreak_behind_plain (h : cls.clings = false) : rulesBreak (.other :: back) cls := by
  cases cls <;> first | rfl | cases h

/-- There is a boundary in front of a plain character unless a prepended one stands there. -/
theorem rulesBreak_before_plain (h : last ≠ .prepend) : rulesBreak (last :: back) .other := by
  cases last <;> first | exact absurd rfl h | simp [rulesBreak, BreakClass.standsAlone,
    joinsSyllable, BreakClass.clings]

end Grapheme

namespace Segmenter

/-- Where the rules put a boundary between two texts, the clusters of both together are those of
the first and then those of the second. -/
theorem clusters_append_of_rulesBreak {before : Text} {c : Char} {after : Text}
    (h : Grapheme.rulesBreak (Grapheme.classesBack before) (.ofChar c)) :
    graphemes.clusters (before ++ c :: after) =
      graphemes.clusters before ++ graphemes.clusters (c :: after) :=
  ClusterRule.clusters_append_of_breaksBefore _ ((Grapheme.breaksBefore_iff_rulesBreak _ _).2 h)

/-- Nothing at the front of the text clings to what stands before it. -/
def Unclinging (text : Text) : Prop :=
  ∀ c ∈ text.head?, (BreakClass.ofChar c).clings = false

/-- No prepended character stands last in the text. -/
def Unprepended (text : Text) : Prop :=
  ∀ c ∈ text.getLast?, BreakClass.ofChar c ≠ .prepend

/-- No character of the text is blank. -/
def Unblank (text : Text) : Prop :=
  ∀ c ∈ text, isBlank c = false

/-- Whether a text clings is decided on its first character. -/
instance (text : Text) : Decidable (Unclinging text) :=
  Option.decidableForallMem text.head?

/-- Whether a prepended character stands last is decided on the last character. -/
instance (text : Text) : Decidable (Unprepended text) :=
  Option.decidableForallMem text.getLast?

/-- Whether a text has blanks is decided on its characters. -/
instance (text : Text) : Decidable (Unblank text) :=
  List.decidableBAll _ text

/-- A plain character to which nothing clings is a cluster. -/
theorem clusters_cons_plain {c : Char} {rest : Text} (hc : BreakClass.ofChar c = .other)
    (hrest : Unclinging rest) :
    graphemes.clusters (c :: rest) = [c] :: graphemes.clusters rest := by
  cases rest with
  | nil => rfl
  | cons d later =>
      have hbreak : Grapheme.rulesBreak (Grapheme.classesBack [c]) (.ofChar d) := by
        show Grapheme.rulesBreak [.ofChar c] _
        rw [hc]
        exact Grapheme.rulesBreak_behind_plain (hrest d rfl)
      exact clusters_append_of_rulesBreak hbreak

/-- Plain characters are clusters, each of them alone, in front of a text that does not cling to
the last one. -/
theorem clusters_plain_append {plain rest : Text}
    (hplain : ∀ c ∈ plain, BreakClass.ofChar c = .other) (hrest : Unclinging rest) :
    graphemes.clusters (plain ++ rest) = plain.map ([·]) ++ graphemes.clusters rest := by
  induction plain with
  | nil => rfl
  | cons c later ih =>
      obtain ⟨hc, hlater⟩ := List.forall_mem_cons.1 hplain
      have hnext : Unclinging (later ++ rest) := by
        cases later with
        | nil => exact hrest
        | cons d further =>
            intro e he
            obtain rfl : d = e := Option.some.inj he
            rw [hlater d List.mem_cons_self]
            rfl
      rw [List.cons_append, clusters_cons_plain hc hnext, ih hlater]
      rfl

/-- A blank character begins a cluster behind a text without blanks, unless a prepended character
stands last in that text. -/
theorem clusters_append_blank {text : Text} {b : Char} {later : Text} (htext : Unblank text)
    (hlast : Unprepended text) (hblank : isBlank b) :
    graphemes.clusters (text ++ b :: later) =
      graphemes.clusters text ++ graphemes.clusters (b :: later) := by
  rcases List.eq_nil_or_concat text with rfl | ⟨front, c, rfl⟩
  · rfl
  · apply clusters_append_of_rulesBreak
    rw [List.concat_eq_append, Grapheme.classesBack_concat]
    rcases BreakClass.ofChar_blank hblank with halone | hplain
    · apply Grapheme.rulesBreak_of_standsAlone (.inr halone)
      -- a carriage return in front of the line feed would be blank itself
      rintro ⟨hreturn, -⟩
      have hc : isBlank c := BreakClass.isBlank_of_lineEnd (.inl hreturn)
      rw [htext c (by simp)] at hc
      cases hc
    · rw [hplain]
      exact Grapheme.rulesBreak_before_plain (hlast c (by simp))

/-- Only the line feed of a line end joins a cluster that ends with a character that stands
alone. -/
theorem isBlank_of_mem_cutAfter {ctx : Grapheme.Context} (h : ctx.last.standsAlone) (text : Text) :
    ∀ c ∈ (ClusterRule.grapheme.cutAfter ctx text).1, isBlank c := by
  induction text generalizing ctx with
  | nil => simp [ClusterRule.cutAfter]
  | cons c rest ih =>
      -- the one character that may join is the second one of a line end, which stands alone too
      by_cases hend : ctx.last = .carriageReturn ∧ BreakClass.ofChar c = .lineFeed
      · have hjoin : ClusterRule.grapheme.join ctx c = some (ctx.push (.ofChar c)) := by
          simp [ClusterRule.grapheme, Grapheme.Context.join, Grapheme.Context.breaksBefore, hend]
        have hpush : (ctx.push (.ofChar c)).last.standsAlone := by
          rw [hend.2]
          rfl
        simp only [ClusterRule.cutAfter, hjoin]
        exact List.forall_mem_cons.2 ⟨BreakClass.isBlank_of_lineEnd (.inr hend.2), ih hpush⟩
      · have hjoin : ClusterRule.grapheme.join ctx c = none := by
          apply (Grapheme.Context.join_eq_none_iff _ _).2
          rw [Grapheme.Context.breaksBefore, if_neg hend, h]
          rfl
        simp [ClusterRule.cutAfter, hjoin]

/-- The first cluster of a text that begins with a blank character is blank, if nothing clings to
that character. -/
theorem isBlank_of_mem_head {b : Char} {later : Text} (hblank : isBlank b)
    (hseam : (BreakClass.ofChar b).standsAlone ∨ Unclinging later) :
    ∀ cluster ∈ (graphemes.clusters (b :: later)).head?, Cluster.isBlank cluster := by
  by_cases halone : (BreakClass.ofChar b).standsAlone
  · have hjoined : ∀ c ∈ (graphemes.rule.cutAfter (graphemes.rule.first b) later).1, isBlank c :=
      isBlank_of_mem_cutAfter halone later
    intro cluster hcluster
    cases hcluster
    simpa [Cluster.isBlank, hblank] using hjoined
  · have hplain := (BreakClass.ofChar_blank hblank).resolve_left halone
    rw [clusters_cons_plain hplain (hseam.resolve_left halone)]
    intro cluster hcluster
    cases hcluster
    simp [Cluster.isBlank, hblank]

/-- The clusters of a text without blanks may all stand in a word. -/
theorem isWordPart_of_mem_clusters (segmenter : Segmenter) {text : Text}
    (htext : Unblank text) :
    ∀ cluster ∈ segmenter.clusters text, Cluster.isWordPart cluster := by
  intro cluster hcluster
  have hne := segmenter.rule.ne_nil_of_mem_clusters text cluster hcluster
  obtain ⟨c, hc⟩ := List.exists_mem_of_ne_nil cluster hne
  have hnotblank : Cluster.isBlank cluster = false :=
    Bool.eq_false_iff.2 (Cluster.not_isBlank_of_mem hc (htext c (mem_of_mem_clusters hcluster hc)))
  rw [Cluster.isWordPart, hnotblank]
  simpa using hne

end Segmenter

end TextCursor
