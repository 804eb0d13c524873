import Mathlib.Data.List.DropRight
import TextCursor.Proofs.Window.Conservation

/-!
# Stretches of a window

Every window that an operation on clusters makes of a window is a stretch of it: it shows a run of
the clusters, and stands behind those in front of the run (`Window.stretch`). This says where an
empty result stands as well. The clusters of a stretch, segmented alone, are the run
(`Window.HasClusters.stretch`), and a stretch of a stretch is one of the window itself
(`Window.stretch_stretch`), so that operations one after the other come to operations on lists of
clusters. Which stretch each operation makes is said here once.
-/

namespace TextCursor

/-- A list is what is in front of the trailing items that pass a test, and these behind it. -/
theorem withoutLastWhile_append (test : Text → Bool) (clusters : List Text) :
    withoutLastWhile test clusters ++ clusters.rtakeWhile test = clusters :=
  List.rdropWhile_append_rtakeWhile

namespace Window

/-- The window on a run of clusters that stands behind other ones in a window. -/
def stretch (w : Window) (before run : List Text) : Window :=
  ⟨w.source, w.start + extent before, extent run⟩

/-- The window fits its source, and these are its clusters when it is segmented alone. -/
structure HasClusters (w : Window) (segmenter : Segmenter) (clusters : List Text) : Prop where
  fits : w.Fits
  clusters_eq : segmenter.clusters w.text = clusters

variable {w : Window} {segmenter : Segmenter} {clusters before run after front back : List Text}

/-- The clusters of a window make up its text. -/
theorem HasClusters.madeOf (h : w.HasClusters segmenter clusters) : w.MadeOf clusters := by
  rw [← h.clusters_eq]
  exact madeOf_clusters h.fits segmenter

/-- The stretch of all clusters is the window. -/
theorem MadeOf.stretch_all (h : w.MadeOf clusters) : w.stretch [] clusters = w := by
  rw [stretch, h.extent_eq]
  rfl

/-- A stretch of a stretch is the stretch of the same run, behind all that is in front of it. -/
theorem stretch_stretch (w : Window) (before run front middle : List Text) :
    (w.stretch before run).stretch front middle = w.stretch (before ++ front) middle := by
  simp only [stretch, extent_append, Nat.add_assoc]

/-- The front of a window up to the extent of some clusters is the stretch of these. -/
theorem take_extent (w : Window) (front : List Text) : w.take (extent front) = w.stretch [] front :=
  rfl

/-- The rest of a window behind the extent of leading clusters is the stretch of the others. -/
theorem MadeOf.drop_extent (h : w.MadeOf (front ++ back)) :
    w.drop (extent front) = w.stretch front back := by
  have hsize := h.extent_eq
  rw [extent_append] at hsize
  simp only [drop, stretch, mk.injEq, true_and]
  omega

/-- What some clusters leave of a window up to the extent of more is the stretch of the others. -/
theorem take_drop_extent (w : Window) {whole : List Text} (h : front ++ back = whole) :
    (w.take (extent whole)).drop (extent front) = w.stretch front back := by
  subst h
  simp only [take, drop, stretch, extent_append, Nat.add_sub_cancel_left]

/-- A stretch of a window lies inside it. -/
theorem MadeOf.stretch_inside (h : w.MadeOf (before ++ (run ++ after))) :
    (w.stretch before run).Inside w := by
  have hsize := h.extent_eq
  rw [extent_append, extent_append] at hsize
  refine ⟨rfl, Nat.le_add_right _ _, ?_⟩
  simp only [stretch, stop]
  omega

/-- A stretch of a window shows its run. -/
theorem MadeOf.text_stretch (h : w.MadeOf (before ++ (run ++ after))) :
    (w.stretch before run).text = run.flatten := by
  have hrest : (w.drop (extent before)).MadeOf (run ++ after) :=
    ⟨(w.drop_inside (h.extent_le (List.prefix_append _ _))).fits h.fits, h.text_drop_extent.symm⟩
  exact hrest.text_take_extent

/-- A stretch of a window, segmented alone, has the clusters of its run. -/
theorem HasClusters.stretch (h : w.HasClusters segmenter (before ++ (run ++ after))) :
    (w.stretch before run).HasClusters segmenter run where
  fits := h.madeOf.stretch_inside.fits h.fits
  clusters_eq := by
    rw [h.madeOf.text_stretch]
    exact segmenter.rule.clusters_infix h.clusters_eq

/-- The stretch of leading clusters has these clusters. -/
theorem HasClusters.stretch_front (h : w.HasClusters segmenter (front ++ back)) :
    (w.stretch [] front).HasClusters segmenter front :=
  HasClusters.stretch h

/-- The stretch of trailing clusters has these clusters. -/
theorem HasClusters.stretch_back (h : w.HasClusters segmenter (front ++ back)) :
    (w.stretch front back).HasClusters segmenter back := by
  rw [← List.append_nil back] at h
  exact h.stretch

/-- A cut behind leading clusters makes the stretches of these and of the others. -/
theorem MadeOf.front_eq (h : w.MadeOf (front ++ back)) :
    Cut.front w (extent front) 0 = ⟨w.stretch [] front, w.stretch front back⟩ := by
  rw [Cut.front, Nat.add_zero, take_extent, h.drop_extent]

/-- A cut in front of trailing clusters makes the stretches of these and of the others. -/
theorem MadeOf.back_eq (h : w.MadeOf (front ++ back)) :
    Cut.back w (extent front) = ⟨w.stretch front back, w.stretch [] front⟩ := by
  rw [Cut.back, take_extent, h.drop_extent]

/-- A slice is the stretch of the clusters between its bounds, behind those in front of the lower
one. -/
theorem slice_eq (w : Window) (clusters : List Text) (first last : Option Int) :
    let lower := (first.map (sliceBound clusters.length)).getD 0
    let upper := (last.map (sliceBound clusters.length)).getD clusters.length
    w.slice clusters first last =
      w.stretch (clusters.take lower) ((clusters.take (max lower upper)).drop lower) := by
  intro lower upper
  have hsplit := List.take_append_drop lower (clusters.take (max lower upper))
  rw [List.take_take, Nat.min_eq_left (Nat.le_max_left _ _)] at hsplit
  exact take_drop_extent w hsplit

/-- A counted chop off the front removes so many clusters and leaves the others. -/
theorem MadeOf.chopFirst_eq (h : w.MadeOf clusters) (count : Int) :
    w.chopFirst clusters count =
      ⟨w.stretch [] (clusters.take count.toNat),
        w.stretch (clusters.take count.toNat) (clusters.drop count.toNat)⟩ := by
  rw [← List.take_append_drop count.toNat clusters] at h
  exact h.front_eq

/-- A counted chop off the back leaves what is in front of so many clusters. -/
theorem MadeOf.chopLast_eq (h : w.MadeOf clusters) (count : Int) :
    let kept := clusters.length - count.toNat
    w.chopLast clusters count =
      ⟨w.stretch (clusters.take kept) (clusters.drop kept), w.stretch [] (clusters.take kept)⟩ := by
  intro kept
  rw [h.chopLast_eq_back]
  rw [← List.take_append_drop kept clusters] at h
  exact h.back_eq

/-- A chop by a test off the front removes the leading clusters that pass it and leaves the
others. -/
theorem MadeOf.chopWhile_eq (h : w.MadeOf clusters) (test : Text → Bool) :
    w.chopWhile clusters test =
      ⟨w.stretch [] (clusters.takeWhile test),
        w.stretch (clusters.takeWhile test) (clusters.dropWhile test)⟩ := by
  rw [← List.takeWhile_append_dropWhile (p := test) (l := clusters)] at h
  exact h.front_eq

/-- A chop by a test off the back removes the trailing clusters that pass it and leaves the
others. -/
theorem MadeOf.chopLastWhile_eq (h : w.MadeOf clusters) (test : Text → Bool) :
    w.chopLastWhile clusters test =
      ⟨w.stretch (withoutLastWhile test clusters) (clusters.rtakeWhile test),
        w.stretch [] (withoutLastWhile test clusters)⟩ := by
  rw [← withoutLastWhile_append test clusters] at h
  exact h.back_eq

/-- Trimming the front leaves the stretch behind the leading blank clusters. -/
theorem MadeOf.trimStart_eq (h : w.MadeOf clusters) :
    w.trimStart clusters =
      w.stretch (clusters.takeWhile Cluster.isBlank) (clusters.dropWhile Cluster.isBlank) := by
  rw [← List.takeWhile_append_dropWhile (p := Cluster.isBlank) (l := clusters)] at h
  exact h.drop_extent

/-- Trimming the back leaves the stretch in front of the trailing blank clusters. -/
theorem trimEnd_eq (w : Window) (clusters : List Text) :
    w.trimEnd clusters = w.stretch [] (withoutLastWhile Cluster.isBlank clusters) :=
  rfl

/-- A window trimmed in front has the clusters behind the leading blank ones. -/
theorem HasClusters.trimStart (h : w.HasClusters segmenter clusters) :
    (w.trimStart clusters).HasClusters segmenter (clusters.dropWhile Cluster.isBlank) := by
  rw [h.madeOf.trimStart_eq]
  rw [← List.takeWhile_append_dropWhile (p := Cluster.isBlank) (l := clusters)] at h
  exact h.stretch_back

/-- A window trimmed at the back has the clusters in front of the trailing blank ones. -/
theorem HasClusters.trimEnd (h : w.HasClusters segmenter clusters) :
    (w.trimEnd clusters).HasClusters segmenter (withoutLastWhile Cluster.isBlank clusters) := by
  rw [trimEnd_eq]
  rw [← withoutLastWhile_append Cluster.isBlank clusters] at h
  exact h.stretch_front

/-- Trimming is trimming in front and then at the back. The window is segmented anew in between,
with the clusters that are left for a result. -/
theorem HasClusters.trim_eq (h : w.HasClusters segmenter clusters) :
    w.trim clusters segmenter =
      (w.trimStart clusters).trimEnd (clusters.dropWhile Cluster.isBlank) := by
  rw [trim, h.trimStart.clusters_eq]

/-- A trimmed window has the clusters between the leading and the trailing blank ones. -/
theorem HasClusters.trim (h : w.HasClusters segmenter clusters) :
    (w.trim clusters segmenter).HasClusters segmenter
      (withoutLastWhile Cluster.isBlank (clusters.dropWhile Cluster.isBlank)) := by
  rw [h.trim_eq]
  exact h.trimStart.trimEnd

end Window

end TextCursor
