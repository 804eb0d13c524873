/-!
# Sets of code points

A property of characters is kept as a list of ranges of code points in ascending order, so that a
look-up may stop at the first range beyond the code point it asks about.
-/

namespace TextCursor.Unicode

/-- The code points from `first` to `last`, both included. -/
structure CodeRange where
  first : Nat
  last : Nat

/-- The ranges hold a code point each, begin at `least` or beyond it, and ascend without
overlapping. -/
def CodeRange.ascend (least : Nat) : List CodeRange → Bool
  | [] => true
  | range :: later =>
      least ≤ range.first && range.first ≤ range.last && ascend (range.last + 1) later

/-- A set of code points: ranges in ascending order that do not overlap. -/
structure CodeSet where
  ranges : List CodeRange
  ascending : CodeRange.ascend 0 ranges = true := by decide +kernel

namespace CodeRange

/-- No range of ascending ones begins in front of the first. -/
theorem le_first_of_ascend {least : Nat} {ranges : List CodeRange}
    (h : ascend least ranges = true) : ∀ range ∈ ranges, least ≤ range.first := by
  induction ranges generalizing least with
  | nil => exact fun range hrange => absurd hrange List.not_mem_nil
  | cons first later ih =>
      simp only [ascend, Bool.and_eq_true, decide_eq_true_eq] at h
      obtain ⟨⟨hleast, hfirst⟩, hlater⟩ := h
      intro range hrange
      rcases List.mem_cons.1 hrange with rfl | hrange
      · exact hleast
      · have := ih hlater range hrange
        omega

end CodeRange

namespace CodeSet

/-- The code point lies in one of the ranges. They ascend, so none can hold the code point once one
of them starts beyond it. -/
def holds (set : CodeSet) (code : Nat) : Bool :=
  search set.ranges
where
  /-- The code point lies in one of the ranges that are left. -/
  search : List CodeRange → Bool
    | [] => false
    | range :: later =>
        if code < range.first then false
        else code ≤ range.last || search later

/-- A look-up in ascending ranges that stops early misses none of them. -/
theorem search_iff {least code : Nat} {ranges : List CodeRange}
    (h : CodeRange.ascend least ranges = true) :
    holds.search code ranges = true ↔
      ∃ range ∈ ranges, range.first ≤ code ∧ code ≤ range.last := by
  induction ranges generalizing least with
  | nil => simp [holds.search]
  | cons first later ih =>
      simp only [CodeRange.ascend, Bool.and_eq_true, decide_eq_true_eq] at h
      obtain ⟨⟨-, hfirst⟩, hlater⟩ := h
      rw [holds.search]
      split
      · next hbeyond =>
          -- every later range begins behind the first one, and so beyond the code point
          refine iff_of_false Bool.false_ne_true ?_
          rintro ⟨range, hrange, hlow, -⟩
          rcases List.mem_cons.1 hrange with rfl | hrange
          · omega
          · have := CodeRange.le_first_of_ascend hlater range hrange
            omega
      · next hnotbeyond =>
          simp only [Bool.or_eq_true, decide_eq_true_eq, ih hlater, List.mem_cons,
            exists_eq_or_imp, Nat.not_lt.1 hnotbeyond, true_and]

/-- The set holds the code points of its ranges. -/
theorem holds_iff (set : CodeSet) (code : Nat) :
    set.holds code = true ↔ ∃ range ∈ set.ranges, range.first ≤ code ∧ code ≤ range.last :=
  search_iff set.ascending

end CodeSet

end TextCursor.Unicode
