import TextCursor.Segmentation.Grapheme

/-!
# Segmenters

The three ways in which the library counts characters: by extended grapheme clusters, by code
points, or in chunks of a fixed number of code points. A segmentation is an exact partition: the
clusters are non-empty and concatenate to the text.
-/

namespace TextCursor

/-- The rule under which every code point is a cluster. -/
def ClusterRule.codePoint : ClusterRule where
  State := Unit
  first _ := ()
  join _ _ := none

/-- The rule that fills clusters up to `width` code points. The state is the number of code points
in the open cluster. -/
def ClusterRule.chunk (width : Nat) : ClusterRule where
  State := Nat
  first _ := 1
  join filled _ := if filled < width then some (filled + 1) else none

/-- A way of counting characters. -/
inductive Segmenter where
  | graphemes
  | codePoints
  | chunks (width : Nat)
  deriving DecidableEq, Repr

namespace Segmenter

/-- The rule by which the segmenter cuts texts. -/
def rule : Segmenter → ClusterRule
  | graphemes => .grapheme
  | codePoints => .codePoint
  | chunks width => .chunk width

/-- The clusters of a text, in order. -/
def clusters (segmenter : Segmenter) (text : Text) : List Text :=
  segmenter.rule.clusters text

/-- The clusters of a text as half-open intervals of offsets. -/
def spans (segmenter : Segmenter) (text : Text) : List (Nat × Nat) :=
  place 0 (segmenter.clusters text)
where
  /-- The intervals of consecutive clusters, the first of which begins at `start`. -/
  place (start : Nat) : List Text → List (Nat × Nat)
    | [] => []
    | cluster :: later =>
        let stop := start + cluster.length
        (start, stop) :: place stop later

/-- The name under which settings and answers speak of the segmenter. -/
def name : Segmenter → Text
  | graphemes => Text.lit "regex"
  | codePoints => Text.lit "codepoint"
  | chunks _ => Text.lit "chunk"

/-- The segmenter as messages show it. -/
def description : Segmenter → Text
  | graphemes => Text.lit "<RegexSegmenter: \\X>"
  | codePoints => Text.lit "<CodepointSegmenter>"
  | chunks width => Text.lit "<ChunkSegmenter: " ++ Text.ofNat width ++ Text.lit ">"

/-- The segmenters that can be selected by name. -/
def selectable : List Segmenter :=
  [graphemes, codePoints]

/-- The segmenter of this name, if it can be selected by name. -/
def ofName? (wanted : Text) : Option Segmenter :=
  selectable.find? (·.name = wanted)

end Segmenter

end TextCursor
