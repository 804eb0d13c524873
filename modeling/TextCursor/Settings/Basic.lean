import TextCursor.Logging.Format
import TextCursor.Logging.Level
import TextCursor.Segmentation.Choice
import TextCursor.Settings.Outcome

/-!
# Process-wide settings

The segmenter that every view uses, and what the log records. Logging is set up once: the format
and the root level of the first successful set-up stay, and later ones change the library's own
level only.
-/

namespace TextCursor

/-- The settings of the process. A level of zero means that no level is set. -/
structure Settings where
  segmenter : Segmenter := .graphemes
  level : Int := 0
  rootLevel : Int := Level.warning
  installed : Bool := false
  deriving DecidableEq

/-- Why logging cannot be set up. -/
inductive LoggingFault where
  | unknownLevel (name : Text)
  | invalidFormat (format : Text)

/-- The wording of the fault. -/
def LoggingFault.message : LoggingFault → Text
  | unknownLevel name => Text.lit "Unknown log level `" ++ name ++ Text.lit "`"
  | invalidFormat format =>
      Text.lit "Invalid format '" ++ format ++ Text.lit "' for '%' style"

namespace Settings

/-- The level in force: the library's own, or the root level where it has none. -/
def effectiveLevel (s : Settings) : Int :=
  if s.level = 0 then s.rootLevel else s.level

/-- The log records debug messages. -/
def debugging (s : Settings) : Bool :=
  s.effectiveLevel ≤ Level.debug

/-- The notice, if the log records it. -/
def note (s : Settings) (notice : Notice) : List Notice :=
  if s.debugging then [notice] else []

/-- Make the chosen segmenter the one that all views use, and answer the one they used before. -/
def selectSegmenter (s : Settings) (choice : SegmenterChoice) :
    Outcome Settings SegmenterFault Segmenter :=
  match choice.resolve with
  | .error fault => .failed fault s
  | .ok chosen =>
      ⟨.ok s.segmenter, { s with segmenter := chosen }, s.note (.switched s.segmenter chosen)⟩

/-- Set up logging. The level is looked at first; the format only by the first set-up that gets as
far as that. -/
def setUpLogging (s : Settings) (choice : LevelChoice) (format : Text) :
    Outcome Settings LoggingFault Unit :=
  match choice.resolve with
  | .error name => .failed (.unknownLevel name) s
  | .ok level =>
      if s.installed then .done () { s with level := level }
      else if LogFormat.isUsable format then
        .done () { s with level := level, rootLevel := level, installed := true }
      else .failed (.invalidFormat format) s

end Settings

end TextCursor
