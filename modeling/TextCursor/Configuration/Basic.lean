import TextCursor.Datum

/-!
# Configurations

A configuration holds the process-wide settings as texts, the way a settings file gives them. They
are checked when the configuration is applied, not before.
-/

namespace TextCursor

/-- The settings of a process: the name of a log level, a log format and the name of a
segmenter. -/
structure Configuration where
  logLevel : Text := Text.lit "WARNING"
  logFormat : Text :=
    Text.lit "%(asctime)s [%(levelname)s] [%(module)s:%(funcName)s %(lineno)s] %(message)s"
  segmenter : Text := Text.lit "regex"
  deriving DecidableEq

/-- The names of the settings, in the order of the fields. -/
inductive Setting where
  | logLevel
  | logFormat
  | segmenter
  deriving DecidableEq

namespace Setting

/-- All settings. -/
def all : List Setting :=
  [logLevel, logFormat, segmenter]

/-- The key under which a table gives the setting. -/
def key : Setting → Text
  | logLevel => Text.lit "log_level"
  | logFormat => Text.lit "log_format"
  | segmenter => Text.lit "segmenter"

/-- The setting that a key names. -/
def ofKey? (key : Text) : Option Setting :=
  all.find? (·.key = key)

end Setting

namespace Configuration

/-- The text of a setting. -/
def get (c : Configuration) : Setting → Text
  | .logLevel => c.logLevel
  | .logFormat => c.logFormat
  | .segmenter => c.segmenter

/-- The configuration with one setting changed. -/
def set (c : Configuration) (setting : Setting) (value : Text) : Configuration :=
  match setting with
  | .logLevel => { c with logLevel := value }
  | .logFormat => { c with logFormat := value }
  | .segmenter => { c with segmenter := value }

/-- The configuration as messages show it. -/
def describe (c : Configuration) : Text :=
  Text.lit "Config(" ++
    Text.join (Text.lit ", ")
      (Setting.all.map fun setting => setting.key ++ '=' :: (c.get setting).quote)
    ++ Text.lit ")"

/-- The configuration as a table of its settings. -/
def toDatum (c : Configuration) : Datum :=
  .table (Setting.all.map fun setting => (setting.key, .text (c.get setting)))

end Configuration

end TextCursor
