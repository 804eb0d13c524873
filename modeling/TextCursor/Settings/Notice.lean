import TextCursor.Configuration.Basic
import TextCursor.Segmentation.Segmenter
import TextCursor.Window.Basic

/-!
# Notices

What the library tells the log. All notices are debug messages.
-/

namespace TextCursor

/-- An event that the log may record. -/
inductive Notice where
  | switched (previous current : Segmenter)
  | refused (chopper : Text) (window : Window)
  | extractorBuilt (literals : List Text) (choppers : Nat)
  | applied (configuration : Configuration)

/-- The wording of the log entry. -/
def Notice.message : Notice → Text
  | switched previous current =>
      Text.lit "Grapheme segmenter switched from " ++ previous.description
        ++ Text.lit " to " ++ current.description
  | refused chopper window =>
      Text.lit "Chopper `" ++ chopper ++ Text.lit "` failed on " ++ window.describe
  | extractorBuilt literals choppers =>
      Text.lit "Built extractor for " ++ Text.describeRow literals ++ Text.lit " with "
        ++ Text.ofNat choppers ++ Text.lit " choppers"
  | applied configuration => Text.lit "Applied " ++ configuration.describe

/-- The name of the level of all notices. -/
def Notice.levelName : Text := Text.lit "DEBUG"

end TextCursor
