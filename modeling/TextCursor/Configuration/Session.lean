import TextCursor.Configuration.Load
import TextCursor.Error

/-!
# Sessions of configuration

A process reads configurations and puts them into force, and may also set up logging or select a
segmenter directly. There is a current configuration, which a successful reading replaces. Applying
a configuration sets up logging first and selects the segmenter then. When there is no such
segmenter, logging stays as it has been set up.
-/

namespace TextCursor

/-- Put the configuration into force. -/
def Configuration.apply (c : Configuration) (settings : Settings) :
    Outcome Settings Error Unit :=
  let logged := (settings.setUpLogging (.named c.logLevel) c.logFormat).mapError fun fault =>
    Error.configuration (.logging fault)
  logged.andThen fun _ s =>
    ((s.selectSegmenter (.named c.segmenter)).mapError Error.segmenter).andThen fun _ s =>
      ⟨.ok (), s, s.note (.applied c)⟩

/-- A step in the configuration of a process. -/
inductive ConfigurationStep where
  | ofDatum (datum : Datum)
  | load (path : Text) (content : FileContent)
  | apply
  | setUpLogging (level : LevelChoice) (format : Text)
  | selectSegmenter (choice : SegmenterChoice)
  | clusters (text : Text)

/-- The state of a process: its current configuration and the settings in force. -/
structure ConfigurationSession where
  current : Configuration := {}
  settings : Settings := {}

/-- The name of the library's log. -/
def logName : Text := Text.lit "carve"

namespace ConfigurationSession

/-- Make a configuration that has been read the current one. -/
def adopt (s : ConfigurationSession) (read : Except ConfigurationFault Configuration) :
    Outcome ConfigurationSession Error Datum :=
  match read with
  | .ok configuration => .done configuration.toDatum { s with current := configuration }
  | .error fault => .failed (.configuration fault) s

/-- The session with other settings in force. -/
def withSettings (s : ConfigurationSession) (settings : Settings) : ConfigurationSession :=
  { s with settings := settings }

/-- Carry out a step. -/
def step (s : ConfigurationSession) :
    ConfigurationStep → Outcome ConfigurationSession Error Datum
  | .ofDatum datum => s.adopt (Configuration.ofDatum datum)
  | .load path content => s.adopt (Configuration.load path content)
  | .apply => ((s.current.apply s.settings).map fun _ => Datum.null).onState s.withSettings
  | .setUpLogging level format =>
      let outcome := s.settings.setUpLogging level format
      ((outcome.mapError Error.logging).map fun _ => Datum.text logName).onState s.withSettings
  | .selectSegmenter choice =>
      let outcome := s.settings.selectSegmenter choice
      ((outcome.mapError Error.segmenter).map fun previous => Datum.text previous.name).onState
        s.withSettings
  | .clusters text =>
      .done (.list ((s.settings.segmenter.clusters text).map Datum.text)) s

/-- Carry out steps one after the other, and answer the outcome of each. -/
def run (s : ConfigurationSession) :
    List ConfigurationStep → List (Outcome ConfigurationSession Error Datum)
  | [] => []
  | first :: later =>
      let outcome := s.step first
      outcome :: run outcome.state later

end ConfigurationSession

end TextCursor
