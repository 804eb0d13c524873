import TextCursor.Window.Basic
import TextCursor.Segmentation.ClusterTest

/-!
# Cluster operations on windows

Operations that count or test characters work on the clusters of the window's text, which their
caller supplies: `clusters` is always the segmentation of the text of `w` alone. Each one turns a
choice of leading clusters into an offset, by their total length, and cuts the window there. Where
an empty result stands follows from that: what is removed in front of a window is empty at its
start, what is removed at its back is empty at its end.
-/

namespace TextCursor

/-- The number of code points in the clusters together. -/
def extent (clusters : List Text) : Nat :=
  clusters.flatten.length

/-- The clusters in front of the trailing ones that pass the test. -/
def withoutLastWhile (test : Text → Bool) (clusters : List Text) : List Text :=
  (clusters.reverse.dropWhile test).reverse

/-- The clusters in front of the first run of `count` clusters that spells `delimiter`, or `none`
when there is no such run. -/
def beforeRun (count : Nat) (delimiter : Text) : List Text → Option (List Text)
  | [] => if delimiter = [] then some [] else none
  | cluster :: later =>
      if ((cluster :: later).take count).flatten = delimiter then some []
      else (beforeRun count delimiter later).map (cluster :: ·)

/-- The position in a list of `count` items that a bound of a slice means: negative bounds count
from the end, and bounds beyond either end mean that end. -/
def sliceBound (count : Nat) (bound : Int) : Nat :=
  if bound < 0 then (bound + count).toNat else min bound.toNat count

namespace Window

/-- The cluster at this index, if there is one. Indices count from zero. -/
def clusterAt? (clusters : List Text) (index : Int) : Option Text :=
  if index < 0 then none else clusters[index.toNat]?

/-- The cluster at this index, where negative indices count from the end. -/
def item? (clusters : List Text) (index : Int) : Option Text :=
  clusterAt? clusters (if index < 0 then index + clusters.length else index)

/-- The window on the clusters from `first` up to but not including `last`, which default to the
two ends. Crossed bounds give an empty window at the first. -/
def slice (w : Window) (clusters : List Text) (first last : Option Int) : Window :=
  let lower := (first.map (sliceBound clusters.length)).getD 0
  let upper := (last.map (sliceBound clusters.length)).getD clusters.length
  let whole := w.take (extent (clusters.take (max lower upper)))
  whole.drop (extent (clusters.take lower))

/-- The window without its leading clusters that pass the test. -/
def dropWhile (w : Window) (clusters : List Text) (test : Text → Bool) : Window :=
  w.drop (extent (clusters.takeWhile test))

/-- The window without its trailing clusters that pass the test. -/
def dropLastWhile (w : Window) (clusters : List Text) (test : Text → Bool) : Window :=
  w.take (extent (withoutLastWhile test clusters))

/-- Remove the leading clusters that pass the test. -/
def chopWhile (w : Window) (clusters : List Text) (test : Text → Bool) : Cut :=
  .front w (extent (clusters.takeWhile test)) 0

/-- Remove the trailing clusters that pass the test. -/
def chopLastWhile (w : Window) (clusters : List Text) (test : Text → Bool) : Cut :=
  .back w (extent (withoutLastWhile test clusters))

/-- Remove the first `count` clusters: none when the count is negative, all when there are no
more. -/
def chopFirst (w : Window) (clusters : List Text) (count : Int) : Cut :=
  .front w (extent (clusters.take count.toNat)) 0

/-- Remove the last `count` clusters: none when the count is negative, all when there are no
more. -/
def chopLast (w : Window) (clusters : List Text) (count : Int) : Cut :=
  if count ≤ 0 then .back w w.size
  else .back w (extent (clusters.take (clusters.length - count.toNat)))

/-- Remove the whole window, and stand at its end. -/
def chopAll (w : Window) : Cut :=
  .front w w.size 0

/-- Remove everything in front of the first run of clusters that spells `delimiter`, and the
delimiter with it; `none` when there is no such run. The delimiter has `count` clusters. -/
def chopThrough? (w : Window) (clusters : List Text) (count : Nat) (delimiter : Text) :
    Option Cut :=
  (beforeRun count delimiter clusters).map fun before =>
    .front w (extent before) delimiter.length

/-- Remove everything in front of the first place where `needle` stands in the text, and the needle
with it; everything when it stands nowhere. Clusters play no part. -/
def chopThroughText (w : Window) (needle : Text) : Cut :=
  match Text.indexOf? needle w.text with
  | some offset => .front w offset needle.length
  | none => w.chopAll

end Window

end TextCursor
