import TextCursor.Proofs.Session.Handles

/-!
# Views slice like lists

The slice of a list is said by positions: it has the items that stand between its bounds, of which
a negative one counts from the end and one that is absent does not matter (`sliceOf`). Bounds beyond
either end and crossed bounds are no special cases of this, as they are for windows, which bring
their bounds into range first. `Session.views_slice_like_lists` says that slices, items and counted
chops of a view are those of the list of its clusters, and where the windows of the chops stand: an
empty one also stands where the slice does.
-/

namespace TextCursor

/-- The position that a bound means in a list of `count` items, where a negative bound counts from
the end. It may be outside the list. -/
def boundPosition (count : Nat) (bound : Int) : Int :=
  if bound < 0 then bound + count else bound

/-- The items of a list from one bound up to but not including another one. -/
def sliceOf {α : Type} (items : List α) (first last : Option Int) : List α :=
  (items.zipIdx.filter fun placed =>
    first.all (boundPosition items.length · ≤ placed.2) &&
      last.all (placed.2 < boundPosition items.length ·)).map Prod.fst

/-- Bringing a bound into range does not change which positions of the list are at it or behind
it. -/
theorem sliceBound_le_iff {count position : Nat} (h : position < count) (bound : Int) :
    sliceBound count bound ≤ position ↔ boundPosition count bound ≤ position := by
  unfold sliceBound boundPosition
  split <;> omega

/-- Bringing a bound into range does not change which positions of the list are in front of it. -/
theorem lt_sliceBound_iff {count position : Nat} (h : position < count) (bound : Int) :
    position < sliceBound count bound ↔ position < boundPosition count bound := by
  rw [← Nat.not_le, ← Int.not_le, sliceBound_le_iff h]

/-- The items that stand between two positions, when the first item stands at `start`. -/
theorem map_filter_zipIdx {α : Type} (items : List α) (start lower upper : Nat) :
    ((items.zipIdx start).filter fun placed =>
        decide (lower ≤ placed.2) && decide (placed.2 < upper)).map Prod.fst =
      (items.take (upper - start)).drop (lower - start) := by
  induction items generalizing start with
  | nil => simp
  | cons item later ih =>
      rw [List.zipIdx_cons]
      by_cases hupper : start < upper
      · rw [show upper - start = upper - (start + 1) + 1 by omega, List.take_succ_cons]
        by_cases hlower : lower ≤ start
        · rw [List.filter_cons_of_pos (by simp [hlower, hupper]), List.map_cons, ih,
            Nat.sub_eq_zero_of_le hlower, Nat.sub_eq_zero_of_le (Nat.le_succ_of_le hlower)]
          rfl
        · rw [List.filter_cons_of_neg (by simp [hlower]), ih,
            show lower - start = lower - (start + 1) + 1 by omega, List.drop_succ_cons]
      · have hnone : upper - start = 0 := Nat.sub_eq_zero_of_le (Nat.le_of_not_lt hupper)
        have hnone' : upper - (start + 1) = 0 := by
          omega
        rw [List.filter_cons_of_neg (by simp [hupper]), ih, hnone, hnone']
        simp

/-- A slice has the items between its bounds once these have been brought into range. -/
theorem sliceOf_eq {α : Type} (items : List α) (first last : Option Int) :
    let lower := (first.map (sliceBound items.length)).getD 0
    let upper := (last.map (sliceBound items.length)).getD items.length
    sliceOf items first last = (items.take (max lower upper)).drop lower := by
  intro lower upper
  have hwithin : ∀ placed ∈ items.zipIdx,
      (first.all (boundPosition items.length · ≤ placed.2) &&
        last.all (placed.2 < boundPosition items.length ·)) =
      (decide (lower ≤ placed.2) && decide (placed.2 < upper)) := by
    intro placed hplaced
    have hposition : placed.2 < items.length := List.snd_lt_of_mem_zipIdx hplaced
    congr 1
    · cases first with
      | none => simp [lower]
      | some bound => simp [lower, sliceBound_le_iff hposition]
    · cases last with
      | none => simp [upper, hposition]
      | some bound => simp [upper, lt_sliceBound_iff hposition]
  rw [sliceOf, List.filter_congr hwithin, map_filter_zipIdx, Nat.sub_zero, Nat.sub_zero]
  -- crossed bounds leave nothing on either side
  rcases Nat.le_total lower upper with hordered | hcrossed
  · rw [Nat.max_eq_right hordered]
  · rw [Nat.max_eq_left hcrossed, List.drop_eq_nil_of_le (List.length_take_le _ _),
      List.drop_eq_nil_of_le ((List.length_take_le _ _).trans hcrossed)]

example : sliceOf ['a', 'b', 'c', 'd'] (some (-9)) (some (-1)) = ['a', 'b', 'c'] := by
  decide

namespace Window

variable {w : Window} {segmenter : Segmenter} {clusters : List Text}

/-- A slice of a window lies inside it and has the slice of its clusters. -/
theorem HasClusters.slice (h : w.HasClusters segmenter clusters) (first last : Option Int) :
    (w.slice clusters first last).Inside w ∧
      (w.slice clusters first last).HasClusters segmenter (sliceOf clusters first last) := by
  rw [slice_eq, sliceOf_eq]
  have hsplit : ∀ {lower upper : Nat}, lower ≤ upper → clusters.take lower ++
      ((clusters.take upper).drop lower ++ clusters.drop upper) = clusters := by
    intro lower upper hordered
    have hfront := List.take_append_drop lower (clusters.take upper)
    rw [List.take_take, Nat.min_eq_left hordered] at hfront
    rw [← List.append_assoc, hfront, List.take_append_drop]
  rw [← hsplit (Nat.le_max_left _ _)] at h
  exact ⟨h.madeOf.stretch_inside, h.stretch⟩

/-- The slice up to a position is the stretch of so many leading clusters. -/
theorem slice_none_some (w : Window) (clusters : List Text) (count : Nat) :
    w.slice clusters none (some count) = w.stretch [] (clusters.take count) := by
  have hbound : sliceBound clusters.length count = min count clusters.length := rfl
  rw [slice_eq]
  simp only [Option.map_none, Option.map_some, Option.getD_none, Option.getD_some, hbound,
    Nat.zero_max, List.take_zero, List.drop_zero, ← List.take_eq_take_min]

/-- The slice from a position on is the stretch of the clusters behind so many leading ones. -/
theorem slice_some_none (w : Window) (clusters : List Text) (count : Nat) :
    w.slice clusters (some count) none =
      w.stretch (clusters.take count) (clusters.drop count) := by
  have hbound : sliceBound clusters.length count = min count clusters.length := rfl
  have hall : max (min count clusters.length) clusters.length = clusters.length :=
    Nat.max_eq_right (Nat.min_le_right _ _)
  rw [slice_eq]
  simp only [Option.map_none, Option.map_some, Option.getD_none, Option.getD_some, hbound, hall,
    List.take_length, ← List.take_eq_take_min, ← List.drop_eq_drop_min]

/-- At a position of the list is its cluster there. -/
theorem clusterAt?_eq_some {position : Nat} (h : position < clusters.length) :
    clusterAt? clusters position = some clusters[position] := by
  rw [clusterAt?, if_neg (by omega), Int.toNat_natCast, List.getElem?_eq_getElem h]

/-- There is no cluster at a negative index or one beyond the end. -/
theorem clusterAt?_eq_none_iff {index : Int} :
    clusterAt? clusters index = none ↔ index < 0 ∨ clusters.length ≤ index := by
  unfold clusterAt?
  split
  · next hnegative => simp [hnegative]
  · rw [List.getElem?_eq_none_iff]
    omega

/-- The item at a position, counted from either end, is the cluster there. -/
theorem item?_eq_some {position : Nat} (h : position < clusters.length) :
    item? clusters position = some clusters[position] ∧
      item? clusters (position - clusters.length) = some clusters[position] := by
  have hback : (position - clusters.length + clusters.length : Int) = position := by
    omega
  constructor
  · rw [item?, if_neg (by omega), clusterAt?_eq_some h]
  · rw [item?, if_pos (by omega), hback, clusterAt?_eq_some h]

/-- There is no item at an index beyond either end. -/
theorem item?_eq_none_iff {index : Int} :
    item? clusters index = none ↔ index < -clusters.length ∨ clusters.length ≤ index := by
  rw [item?, clusterAt?_eq_none_iff]
  split <;> omega

end Window

namespace Session

variable {s : Session} {handle : Nat} {view : View}

/-- Asking for an item answers it, or fails where there is none. -/
theorem step_item (hview : s.views[handle]? = some view) (hvalid : view.Valid) (index : Int) :
    (s.step (.query handle (.item index))).result =
      match Window.item? (s.segmenter.clusters view.text) index with
      | some cluster => .ok (textAnswer cluster)
      | none => .error .indexOutOfRange := by
  simp only [step, hview, answerQuery, hvalid.clusters_eq]
  cases Window.item? (s.segmenter.clusters view.text) index <;> rfl

/-- Asking for the cluster at an index answers it, or the empty text where there is none. -/
theorem step_clusterAt (hview : s.views[handle]? = some view) (hvalid : view.Valid) (index : Int) :
    (s.step (.query handle (.clusterAt index))).result =
      .ok (textAnswer
        ((Window.clusterAt? (s.segmenter.clusters view.text) index).getD [])) := by
  simp only [step, hview, answerQuery, hvalid.clusters_eq]
  rfl

/-- Views slice like lists of clusters. Whatever the two bounds of a slice are, it lies inside the
view, and its clusters when it is segmented alone are the slice of those of the view. An item,
counted from either end, is the cluster there, and asking for one is an error exactly beyond the
ends; the cluster at an index beyond the ends or at a negative one is the empty text. A counted chop
off the front answers the window of the slice up to the count and leaves that of the slice from the
count on; one off the back does so with the slices from and up to the clusters that are kept. A
negative count is as good as none. -/
theorem views_slice_like_lists (hview : s.views[handle]? = some view) (hvalid : view.Valid) :
    let clusters := s.segmenter.clusters view.text
    let slice := view.window.slice clusters
    (∀ first last,
      s.Makes handle (.slice first last false) (slice first last) ∧
        (slice first last).Inside view.window ∧
        s.segmenter.clusters (slice first last).text = sliceOf clusters first last) ∧
    (∀ position (h : position < clusters.length),
      (s.step (.query handle (.item position))).result = .ok (textAnswer clusters[position]) ∧
        (s.step (.query handle (.item (position - clusters.length)))).result =
          .ok (textAnswer clusters[position]) ∧
        (s.step (.query handle (.clusterAt position))).result =
          .ok (textAnswer clusters[position])) ∧
    (∀ index : Int, (s.step (.query handle (.item index))).result = .error .indexOutOfRange ↔
      index < -clusters.length ∨ clusters.length ≤ index) ∧
    (∀ index : Int, index < 0 ∨ clusters.length ≤ index →
      (s.step (.query handle (.clusterAt index))).result = .ok (textAnswer [])) ∧
    (∀ count : Nat,
      let kept : Int := max (clusters.length - count) 0
      s.Takes handle (.first count) ⟨slice none (some count), slice (some count) none⟩ ∧
        s.Takes handle (.last count) ⟨slice (some kept) none, slice none (some kept)⟩) ∧
    ∀ count : Int, count < 0 →
      s.step (.chop handle (.first count)) = s.step (.chop handle (.first 0)) ∧
        s.step (.chop handle (.last count)) = s.step (.chop handle (.last 0)) := by
  intro clusters slice
  have hholds : s.Holds handle view.window clusters := holds_of_valid hview hvalid
  have hclusters := hholds.hasClusters
  refine ⟨?_, ?_, ?_, ?_, ?_, ?_⟩
  · intro first last
    obtain ⟨hinside, hslice⟩ := hclusters.slice first last
    exact ⟨(hholds.derive (.slice first last false) rfl hslice).1, hinside, hslice.clusters_eq⟩
  · intro position h
    obtain ⟨hfront, hback⟩ := Window.item?_eq_some h
    refine ⟨?_, ?_, ?_⟩
    · rw [step_item hview hvalid, hfront]
    · rw [step_item hview hvalid, hback]
    · rw [step_clusterAt hview hvalid, Window.clusterAt?_eq_some h, Option.getD_some]
  · intro index
    rw [← Window.item?_eq_none_iff, step_item hview hvalid]
    cases Window.item? clusters index <;> simp
  · intro index h
    rw [step_clusterAt hview hvalid, Window.clusterAt?_eq_none_iff.2 h, Option.getD_none]
  · intro count kept
    have hkept : kept = (clusters.length - count : Nat) := by
      omega
    have hmade := hclusters.madeOf
    have hfirst := hmade.chopFirst_eq count
    have hlast := hmade.chopLast_eq count
    rw [Int.toNat_natCast] at hfirst hlast
    simp only [slice, hkept, Window.slice_none_some, Window.slice_some_none, ← hfirst, ← hlast]
    exact ⟨takes_of_cut hview hvalid rfl, takes_of_cut hview hvalid rfl⟩
  · intro count hcount
    have hnone : count.toNat = (0 : Int).toNat := Int.toNat_of_nonpos (Int.le_of_lt hcount)
    -- neither count needs the clusters, so neither step makes a memo
    have hneeds : decide (0 < count) = decide ((0 : Int) < 0) :=
      decide_eq_decide.2 (iff_of_false (Int.lt_asymm hcount) (Int.lt_irrefl 0))
    simp only [step, chopView, Chop.needsClusters, hneeds, Window.chopFirst, Window.chopLast, hnone,
      if_pos (Int.le_of_lt hcount), if_pos (Int.le_refl 0), and_self]

/-- Two flags between a letter and a letter with a mark: a slice by negative bounds, one by crossed
bounds, items from the back and beyond the end, and chops of three of the four clusters and of a
negative number of them. -/
theorem views_slice_like_lists_flags :
    let source : Text := ['>', 'A', '🇩', '🇪', '🇫', '🇷', 'e', '\u0301', '<']
    let view := View.ofWindow ⟨source, 1, 7⟩
    let s : Session := { settings := {}, views := [view] }
    s.views[0]? = some view ∧ view.Valid ∧
      s.Makes 0 (.slice (some (-3)) (some (-1)) false) ⟨source, 2, 4⟩ ∧
      s.segmenter.clusters (Window.mk source 2 4).text = [['🇩', '🇪'], ['🇫', '🇷']] ∧
      s.Makes 0 (.slice (some 3) (some 1) false) ⟨source, 6, 0⟩ ∧
      (s.step (.query 0 (.item (-1)))).result = .ok (textAnswer ['e', '\u0301']) ∧
      (s.step (.query 0 (.item 4))).result = .error .indexOutOfRange ∧
      (s.step (.query 0 (.clusterAt (-1)))).result = .ok (textAnswer []) ∧
      s.Takes 0 (.first 3) ⟨⟨source, 1, 5⟩, ⟨source, 6, 2⟩⟩ ∧
      s.Takes 0 (.last 3) ⟨⟨source, 2, 6⟩, ⟨source, 1, 1⟩⟩ ∧
      s.step (.chop 0 (.last (-2))) = s.step (.chop 0 (.last 0)) := by
  intro source view s
  have hview : s.views[0]? = some view := rfl
  have hvalid : view.Valid := View.valid_ofWindow (by decide)
  obtain ⟨hslices, hitems, hmissing, hnone, hchops, hnegative⟩ :=
    views_slice_like_lists hview hvalid
  have hclusters : s.segmenter.clusters view.text =
      [['A'], ['🇩', '🇪'], ['🇫', '🇷'], ['e', '\u0301']] := by
    decide
  simp only [hclusters] at hslices hitems hmissing hnone hchops
  obtain ⟨hflags, -, hown⟩ := hslices (some (-3)) (some (-1))
  obtain ⟨hfirst, hlast⟩ := hchops 3
  exact ⟨hview, hvalid, hflags, hown, (hslices (some 3) (some 1)).1, (hitems 3 (by decide)).2.1,
    (hmissing 4).2 (by decide), hnone (-1) (by decide), hfirst, hlast,
    (hnegative (-2) (by decide)).2⟩

end Session

end TextCursor
