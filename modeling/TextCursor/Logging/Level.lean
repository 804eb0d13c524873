import TextCursor.Text

/-!
# Log levels

A log level is a number: messages below it are dropped, and zero means that no level is set. The
customary levels have names, which are read without regard to case.
-/

namespace TextCursor

/-- A log level as a caller gives it. -/
inductive LevelChoice where
  | named (name : Text)
  | number (level : Int)

namespace Level

/-- The level of debug messages. -/
def debug : Int := 10

/-- The level that is in force where none has been chosen. -/
def warning : Int := 30

/-- The names of levels. -/
def names : List (Text × Int) :=
  [(Text.lit "CRITICAL", 50), (Text.lit "FATAL", 50), (Text.lit "ERROR", 40),
   (Text.lit "WARNING", warning), (Text.lit "WARN", warning), (Text.lit "INFO", 20),
   (Text.lit "DEBUG", debug), (Text.lit "NOTSET", 0)]

/-- The capital form of a character, as far as it can occur in the name of a level: that of ASCII
letters, and of the letters outside ASCII whose capitals are ASCII letters. -/
def capital (c : Char) : Text :=
  match c.toNat with
  | 0xDF => ['S', 'S']
  | 0x131 => ['I']
  | 0x17F => ['S']
  | 0xFB00 => ['F', 'F']
  | 0xFB01 => ['F', 'I']
  | 0xFB02 => ['F', 'L']
  | 0xFB03 => ['F', 'F', 'I']
  | 0xFB04 => ['F', 'F', 'L']
  | 0xFB05 => ['S', 'T']
  | 0xFB06 => ['S', 'T']
  | _ => [c.toUpper]

/-- The level of this name, in any case. -/
def ofName? (name : Text) : Option Int :=
  names.lookup (name.flatMap capital)

end Level

/-- The level that a choice means, or the name that means none. -/
def LevelChoice.resolve : LevelChoice → Except Text Int
  | named name =>
      match Level.ofName? name with
      | some level => .ok level
      | none => .error name
  | number level => .ok level

end TextCursor
