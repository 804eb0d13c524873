import TextCursor.Datum
import TextCursor.Segmentation.Segmenter

/-!
# Choosing a segmenter

A caller chooses a segmenter by name or hands one in. A name that is not known and a value that is
no segmenter are faults.
-/

namespace TextCursor

/-- What a caller may offer as the segmenter to use. -/
inductive SegmenterChoice where
  | named (name : Text)
  | given (segmenter : Segmenter)
  | value (datum : Datum)

/-- Why a choice is not a segmenter. -/
inductive SegmenterFault where
  | unknown (name : Text) (available : List Text)
  | unfit (value : Datum)

/-- The wording of the fault. The available names stand in ascending order. -/
def SegmenterFault.message : SegmenterFault → Text
  | unknown name available =>
      Text.lit "Unknown segmenter `" ++ name ++ Text.lit "`. Available: "
        ++ Text.join (Text.lit ", ") (Text.sort available)
  | unfit value => value.describe ++ Text.lit " does not implement segment()"

/-- The chosen segmenter. -/
def SegmenterChoice.resolve : SegmenterChoice → Except SegmenterFault Segmenter
  | named name =>
      match Segmenter.ofName? name with
      | some segmenter => .ok segmenter
      | none => .error (.unknown name (Segmenter.selectable.map Segmenter.name))
  | given segmenter => .ok segmenter
  | value datum => .error (.unfit datum)

end TextCursor
