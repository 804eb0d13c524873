import TextCursor.Proofs.Window.Inside
import TextCursor.View.Number

/-!
# What a cut conserves

A cut loses nothing of its window and counts nothing twice. At the front, the removed part begins
where the window does, the rest ends where it does, and what lies between the two is exactly the
delimiter that the cut took away (`Cut.ConservesFront`); at the back the two parts meet
(`Cut.ConservesBack`). When the cut lies between clusters, the pieces have, each one segmented
alone, the clusters of the window (`Segmenter.Partitions`). The cuts that chopping makes of a window
are shown to be of these kinds, one by one.
-/

namespace TextCursor

/-- The clusters of the pieces, each piece segmented alone, are one after the other those of the
text. -/
def Segmenter.Partitions (segmenter : Segmenter) (pieces : List Text) (text : Text) : Prop :=
  pieces.flatMap segmenter.clusters = segmenter.clusters text

/-- There are no clusters in the empty text. -/
@[simp] theorem Segmenter.clusters_nil (segmenter : Segmenter) : segmenter.clusters [] = [] := rfl

namespace Cut

/-- The window between the two parts of a cut at the front. -/
def between (cut : Cut) : Window :=
  ⟨cut.removed.source, cut.removed.stop, cut.rest.start - cut.removed.stop⟩

/-- The cut has taken a piece off the front of the window, and the text `gap` behind it. -/
structure ConservesFront (cut : Cut) (w : Window) (gap : Text) : Prop where
  inside : cut.Inside w
  removed_start : cut.removed.start = w.start
  rest_stop : cut.rest.stop = w.stop
  ordered : cut.removed.stop ≤ cut.rest.start
  between_text : cut.between.text = gap
  text : cut.removed.text ++ gap ++ cut.rest.text = w.text

/-- The cut has taken a piece off the back of the window. -/
structure ConservesBack (cut : Cut) (w : Window) : Prop where
  inside : cut.Inside w
  rest_start : cut.rest.start = w.start
  removed_stop : cut.removed.stop = w.stop
  meets : cut.rest.stop = cut.removed.start
  text : cut.rest.text ++ cut.removed.text = w.text

variable {w : Window} {segmenter : Segmenter}

/-- The parts of the text of a window are together as long as its size says. -/
theorem length_add_eq_size (hfits : w.Fits) {front gap back : Text}
    (htext : w.text = front ++ gap ++ back) :
    front.length + gap.length + back.length = w.size := by
  rw [← hfits.length_text, htext, List.length_append, List.length_append]

/-- A cut at the front parts the text of the window at the offsets that it is given. -/
theorem front_texts (hfits : w.Fits) {front gap back : Text}
    (htext : w.text = front ++ gap ++ back) :
    (Cut.front w front.length gap.length).removed.text = front ∧
      (Cut.front w front.length gap.length).rest.text = back := by
  have hsize := length_add_eq_size hfits htext
  constructor
  · rw [Cut.front, w.text_take (by omega), htext, List.append_assoc, List.take_left]
  · rw [Cut.front, w.text_drop, htext, ← List.length_append, List.drop_left]

/-- A cut at the front between the parts of a text conserves the window. -/
theorem front_conserves (hfits : w.Fits) {front gap back : Text}
    (htext : w.text = front ++ gap ++ back) :
    (Cut.front w front.length gap.length).ConservesFront w gap := by
  have hsize := length_add_eq_size hfits htext
  obtain ⟨hremoved, hrest⟩ := front_texts hfits htext
  refine ⟨front_inside w (by omega), rfl, ?_, ?_, ?_, ?_⟩
  · simp only [Cut.front, Window.drop, Window.stop]
    omega
  · simp only [Cut.front, Window.take, Window.drop, Window.stop]
    omega
  · -- the gap is the front of what follows the removed part
    have hbetween : (Cut.front w front.length gap.length).between =
        (w.drop front.length).take gap.length := by
      simp only [between, Cut.front, Window.take, Window.drop, Window.stop, Window.mk.injEq,
        true_and]
      omega
    have hgap : gap.length ≤ (w.drop front.length).size := by
      simp only [Window.drop]
      omega
    rw [hbetween, Window.text_take _ hgap, w.text_drop, htext, List.append_assoc, List.drop_left,
      List.take_left]
  · rw [hremoved, hrest, htext]

/-- A cut at the back between the parts of a text conserves the window. -/
theorem back_conserves (hfits : w.Fits) {front back : Text} (htext : w.text = front ++ back) :
    (Cut.back w front.length).ConservesBack w := by
  have hsize : front.length + back.length = w.size := by
    rw [← hfits.length_text, htext, List.length_append]
  refine ⟨back_inside w (by omega), rfl, ?_, rfl, ?_⟩
  · simp only [Cut.back, Window.drop, Window.stop]
    omega
  · rw [Cut.back, w.text_take (by omega), w.text_drop, List.take_append_drop]

/-- A cut at the front between clusters, which takes away a delimiter that stands between clusters,
conserves the window and its clusters. -/
theorem front_conserves_clusters (hfits : w.Fits) {gap : Text} {before after : List Text}
    (h : segmenter.clusters w.text = before ++ (segmenter.clusters gap ++ after)) :
    (Cut.front w (extent before) gap.length).ConservesFront w gap ∧
      segmenter.Partitions
        [(Cut.front w (extent before) gap.length).removed.text, gap,
          (Cut.front w (extent before) gap.length).rest.text] w.text := by
  have htext : w.text = before.flatten ++ gap ++ after.flatten := by
    have hflatten := congrArg List.flatten h
    simpa [Segmenter.clusters, ClusterRule.flatten_clusters] using hflatten
  -- each of the three pieces has alone the clusters that it has in the window
  obtain ⟨hbefore, hbehind⟩ := segmenter.rule.clusters_append h
  have hafter := (segmenter.rule.clusters_append hbehind).2
  obtain ⟨hremoved, hrest⟩ := front_texts hfits htext
  refine ⟨front_conserves hfits htext, ?_⟩
  rw [Segmenter.Partitions, h]
  show [_, _, _].flatMap segmenter.clusters = _
  rw [extent, hremoved, hrest]
  simp only [List.flatMap_cons, List.flatMap_nil, List.append_nil, Segmenter.clusters] at *
  rw [hbefore, hafter]

/-- A cut at the back between clusters conserves the window and its clusters. -/
theorem back_conserves_clusters (hfits : w.Fits) {front back : List Text}
    (h : segmenter.clusters w.text = front ++ back) :
    (Cut.back w (extent front)).ConservesBack w ∧
      segmenter.Partitions
        [(Cut.back w (extent front)).rest.text, (Cut.back w (extent front)).removed.text]
        w.text := by
  have hmade : w.MadeOf (front ++ back) := h ▸ Window.madeOf_clusters hfits segmenter
  have htext : w.text = front.flatten ++ back.flatten := by
    rw [← hmade.flatten, List.flatten_append]
  obtain ⟨hfront, hback⟩ := segmenter.rule.clusters_append h
  refine ⟨back_conserves hfits htext, ?_⟩
  rw [Segmenter.Partitions, h, Cut.back, hmade.text_take_extent, hmade.text_drop_extent]
  simp only [List.flatMap_cons, List.flatMap_nil, List.append_nil, Segmenter.clusters]
  rw [hfront, hback]

end Cut

namespace Window

variable {w : Window} {segmenter : Segmenter}

/-- Removing leading clusters conserves the window and its clusters. -/
theorem front_of_prefix (hfits : w.Fits) (segmenter : Segmenter) {before : List Text}
    (h : before <+: segmenter.clusters w.text) :
    (Cut.front w (extent before) 0).ConservesFront w [] ∧
      segmenter.Partitions
        [(Cut.front w (extent before) 0).removed.text, [],
          (Cut.front w (extent before) 0).rest.text] w.text := by
  obtain ⟨after, hafter⟩ := h
  have hclusters : segmenter.clusters w.text = before ++ (segmenter.clusters [] ++ after) :=
    hafter.symm
  exact Cut.front_conserves_clusters hfits hclusters

/-- Removing trailing clusters conserves the window and its clusters. -/
theorem back_of_prefix (hfits : w.Fits) {front : List Text}
    (h : front <+: segmenter.clusters w.text) :
    (Cut.back w (extent front)).ConservesBack w ∧
      segmenter.Partitions
        [(Cut.back w (extent front)).rest.text, (Cut.back w (extent front)).removed.text]
        w.text := by
  obtain ⟨back, hback⟩ := h
  exact Cut.back_conserves_clusters hfits hback.symm

/-- Removing the whole window conserves it and its clusters. -/
theorem chopAll_conserves (hfits : w.Fits) (segmenter : Segmenter) :
    w.chopAll.ConservesFront w [] ∧
      segmenter.Partitions [w.chopAll.removed.text, [], w.chopAll.rest.text] w.text := by
  have hall := front_of_prefix hfits segmenter List.prefix_rfl
  rwa [(madeOf_clusters hfits segmenter).extent_eq] at hall

/-- A chop through a delimiter conserves the window and its clusters, the delimiter being between
the two parts. -/
theorem chopThrough?_conserves (hfits : w.Fits) {delimiter : Text} {cut : Cut} {count : Nat}
    (h : w.chopThrough? (segmenter.clusters w.text) count delimiter = some cut) :
    cut.ConservesFront w delimiter ∧
      segmenter.Partitions [cut.removed.text, delimiter, cut.rest.text] w.text := by
  obtain ⟨before, hbefore, rfl⟩ := Option.map_eq_some_iff.1 h
  obtain ⟨after, hclusters⟩ := Segmenter.clusters_eq_of_beforeRun hbefore
  exact Cut.front_conserves_clusters hfits hclusters

/-- There is a cut through a delimiter exactly when it occurs between boundaries. -/
theorem isSome_chopThrough?_iff {delimiter : Text} :
    (w.chopThrough? (segmenter.clusters w.text) (segmenter.clusters delimiter).length
      delimiter).isSome ↔ segmenter.Occurs delimiter w.text := by
  rw [chopThrough?, Option.isSome_map]
  exact Segmenter.isSome_beforeRun_iff

/-- A chop through a text conserves the window, whatever the clusters. The text is between the two
parts where it stands in the window, and nothing is otherwise. -/
theorem chopThroughText_conserves (hfits : w.Fits) (needle : Text) :
    (w.chopThroughText needle).ConservesFront w (if needle <:+: w.text then needle else []) := by
  rw [chopThroughText]
  have hfound : (Text.indexOf? needle w.text).isSome ↔ needle <:+: w.text :=
    Text.isSome_indexOf?_iff
  cases hindex : Text.indexOf? needle w.text with
  | none =>
      have hmissing : ¬ needle <:+: w.text := by simpa [hindex] using hfound
      rw [if_neg hmissing]
      exact (chopAll_conserves hfits .codePoints).1
  | some offset =>
      have hthere : needle <:+: w.text := by simpa [hindex] using hfound
      obtain ⟨before, after, htext, rfl⟩ := Text.exists_append_of_indexOf? hindex
      rw [if_pos hthere]
      exact Cut.front_conserves hfits htext

end Window

end TextCursor
