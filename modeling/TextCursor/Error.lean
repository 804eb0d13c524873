import TextCursor.Configuration.Fault
import TextCursor.Extraction.Template
import TextCursor.Number.NumberState

/-!
# Errors

All the ways in which an operation of the library can fail, and the wording of each.
-/

namespace TextCursor

/-- Why an operation failed. -/
inductive Error where
  | chop (fault : ChopFault)
  | template (fault : TemplateFault)
  | segmenter (fault : SegmenterFault)
  | logging (fault : LoggingFault)
  | configuration (fault : ConfigurationFault)
  | indexOutOfRange
  | steppedSlice
  | noNumberState (rank : Int)
  | noSuchChopper (name : Text)
  | noSuchHandle

/-- The wording of the error. -/
def Error.message : Error → Text
  | chop fault => fault.message
  | template fault => fault.message
  | segmenter fault => fault.message
  | logging fault => fault.message
  | configuration fault => fault.message
  | indexOutOfRange => Text.lit "StringView index out of range"
  | steppedSlice => Text.lit "StringView does not support step when slicing"
  | noNumberState rank => Text.ofInt rank ++ Text.lit " is not a valid NumberState"
  | noSuchChopper name => name.quote
  | noSuchHandle => Text.lit "list index out of range"

end TextCursor
