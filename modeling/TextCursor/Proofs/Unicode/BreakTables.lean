import TextCursor.Unicode.BreakClass
import Mathlib.Data.List.TakeWhile

/-!
# The sets of code points are disjoint

Two sets of ascending ranges are told to be disjoint in one pass over both (`CodeSet.apart`). The
sets that classes are looked up in are, pair by pair (`breakSets_disjoint`), so that it does not
matter in which order they are asked: a character has the class of the set that holds it
(`BreakClass.ofChar_eq_iff`).
-/

namespace TextCursor.Unicode

namespace CodeRange

/-- No range of one list overlaps one of another, where both lists ascend. A range that ends in
front of one of the first list is done with. -/
def apart : List CodeRange → List CodeRange → Bool
  | [], _ => true
  | range :: later, others =>
      let left := others.dropWhile (·.last < range.first)
      left.head?.all (range.last < ·.first) && apart later left

/-- What is left of ascending ranges behind some of them ascends. -/
theorem ascend_dropWhile {least : Nat} {ranges : List CodeRange} (h : ascend least ranges = true)
    (test : CodeRange → Bool) : ∃ least, ascend least (ranges.dropWhile test) = true := by
  induction ranges generalizing least with
  | nil => exact ⟨least, h⟩
  | cons first later ih =>
      rw [List.dropWhile_cons]
      split
      · simp only [ascend, Bool.and_eq_true] at h
        exact ih h.2
      · exact ⟨least, h⟩

/-- Ascending ranges begin beyond a code point when their head does. -/
theorem lt_first_of_head {least code : Nat} {ranges : List CodeRange}
    (h : ascend least ranges = true) (hhead : ranges.head?.all (code < ·.first) = true) :
    ∀ range ∈ ranges, code < range.first := by
  cases ranges with
  | nil => exact fun range hrange => absurd hrange List.not_mem_nil
  | cons head later =>
      have hbeyond : code < head.first := of_decide_eq_true hhead
      simp only [ascend, Bool.and_eq_true, decide_eq_true_eq] at h
      obtain ⟨⟨-, hfirst⟩, hlater⟩ := h
      intro range hrange
      rcases List.mem_cons.1 hrange with rfl | hrange
      · exact hbeyond
      · have := le_first_of_ascend hlater range hrange
        omega

/-- Of two ascending lists that are apart, any range of the one ends in front of any range of the
other, or begins behind it. -/
theorem lt_or_lt_of_apart {least least' : Nat} {ranges others : List CodeRange}
    (h : ascend least ranges = true) (h' : ascend least' others = true)
    (hapart : apart ranges others = true) :
    ∀ range ∈ ranges, ∀ other ∈ others, range.last < other.first ∨ other.last < range.first := by
  induction ranges generalizing least least' others with
  | nil => exact fun range hrange => absurd hrange List.not_mem_nil
  | cons first later ih =>
      obtain ⟨middle, hleft⟩ := ascend_dropWhile h' (·.last < first.first)
      have hsplit : others.takeWhile (·.last < first.first) ++
          others.dropWhile (·.last < first.first) = others := List.takeWhile_append_dropWhile
      simp only [ascend, apart, Bool.and_eq_true, decide_eq_true_eq] at h hapart
      obtain ⟨⟨-, hfirst⟩, hlater⟩ := h
      intro range hrange other hother
      rw [← hsplit] at hother
      rcases List.mem_append.1 hother with hdone | hother
      · -- the other range ends in front of the first range, and so of all later ones
        have hends : other.last < first.first := by
          simpa using List.mem_takeWhile_imp hdone
        rcases List.mem_cons.1 hrange with rfl | hrange
        · exact .inr hends
        · have := le_first_of_ascend hlater range hrange
          omega
      · rcases List.mem_cons.1 hrange with rfl | hrange
        · exact .inl (lt_first_of_head hleft hapart.1 other hother)
        · exact ih hlater hleft hapart.2 range hrange other hother

end CodeRange

namespace CodeSet

/-- The ranges of one set are apart from those of another one. -/
def apart (set other : CodeSet) : Bool :=
  CodeRange.apart set.ranges other.ranges

/-- Sets whose ranges are apart have no code point in common. -/
theorem not_holds_of_apart {set other : CodeSet} (h : set.apart other = true) {code : Nat}
    (hcode : set.holds code = true) : other.holds code = false := by
  rw [← Bool.not_eq_true, holds_iff]
  rintro ⟨range', hrange', hlow', hhigh'⟩
  obtain ⟨range, hrange, hlow, hhigh⟩ := (set.holds_iff code).1 hcode
  have := CodeRange.lt_or_lt_of_apart set.ascending other.ascending h range hrange range' hrange'
  omega

end CodeSet

/-- The characters that have a class by arithmetic: line ends, the joiner, syllables and regional
indicators. -/
def arithmeticPoints : CodeSet where
  ranges := [⟨0xA, 0xA⟩, ⟨0xD, 0xD⟩, ⟨0x200D, 0x200D⟩, syllables, ⟨0x1F1E6, 0x1F1FF⟩]

/-- The set that holds the characters of a class, for the classes that are looked up in one. -/
def BreakClass.table? : BreakClass → Option CodeSet
  | .control => some controlPoints
  | .leadingJamo => some leadingJamoPoints
  | .vowelJamo => some vowelJamoPoints
  | .trailingJamo => some trailingJamoPoints
  | .prepend => some prependPoints
  | .spacingMark => some spacingMarkPoints
  | .extend => some extendPoints
  | .pictograph => some pictographPoints
  | .carriageReturn | .lineFeed | .joiner | .regional | .openSyllable | .closedSyllable
  | .other => none

/-- The sets of code points that decide the class of a character. -/
def breakSets : List CodeSet :=
  [arithmeticPoints, controlPoints, leadingJamoPoints, vowelJamoPoints, trailingJamoPoints,
    prependPoints, spacingMarkPoints, extendPoints, pictographPoints]

/-- The sets are apart, as one pass over each two of them shows. -/
theorem breakSets_apart : breakSets.Pairwise fun set other => set.apart other = true := by
  decide +kernel

/-- No code point is in two of the sets. -/
theorem breakSets_disjoint (code : Nat) :
    breakSets.Pairwise fun set other => set.holds code = true → other.holds code = false :=
  breakSets_apart.imp fun hapart => CodeSet.not_holds_of_apart hapart

/-- The characters that have a class by arithmetic are those that the comparisons are about. -/
theorem holds_arithmeticPoints_iff (code : Nat) :
    arithmeticPoints.holds code = true ↔ code = 0x0A ∨ code = 0x0D ∨ code = 0x200D ∨
      (syllables.first ≤ code ∧ code ≤ syllables.last) ∨ 0x1F1E6 ≤ code ∧ code ≤ 0x1F1FF := by
  rw [CodeSet.holds_iff]
  simp only [arithmeticPoints, List.mem_cons, List.not_mem_nil, or_false, exists_eq_or_imp,
    exists_eq_left]
  omega

/-- A character has a class exactly where the set of the class holds it, whatever the order in which
the sets are asked. -/
theorem BreakClass.ofChar_eq_iff {cls : BreakClass} {set : CodeSet} (h : cls.table? = some set)
    (c : Char) : BreakClass.ofChar c = cls ↔ set.holds c.toNat = true := by
  have hdisjoint := breakSets_disjoint c.toNat
  have harithmetic := holds_arithmeticPoints_iff c.toNat
  simp only [breakSets, List.pairwise_cons, List.forall_mem_cons, List.not_mem_nil,
    false_imp_iff, implies_true, and_true, List.Pairwise.nil] at hdisjoint
  -- to have the class is to fail every test in front of that of its set, and to pass that one
  cases cls <;> cases h <;>
    simp only [BreakClass.ofChar, ite_eq_iff, reduceCtorEq, and_false, false_or, and_true,
      or_false] <;>
    grind

end TextCursor.Unicode
