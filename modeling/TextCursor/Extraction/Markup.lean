import TextCursor.Text

/-!
# Template markup

A template is text with placeholders between braces. A doubled brace is a single one of the text.
A placeholder has a name and may have a conversion, behind an exclamation mark, and a format
specification, behind a colon. In a name, what stands between square brackets is not looked at; in
a specification, braces have to balance.

`Markup.items` reads the whole text with one look at each character. Its state is the place in the
markup where it stands.
-/

namespace TextCursor.Markup

/-- A placeholder as it is written. -/
structure Placeholder where
  name : Text
  conversion : Option Char
  spec : Text
  deriving DecidableEq

/-- A piece of a template: a character of the text, or a placeholder. -/
inductive Item where
  | char (c : Char)
  | placeholder (p : Placeholder)
  deriving DecidableEq

/-- Why a text is not a template. -/
inductive Fault where
  | loneClosing
  | loneOpening
  | openingInName
  | unclosedName
  | missingConversion
  | afterConversion
  | unclosedSpec
  deriving DecidableEq

/-- The wording of the fault. -/
def Fault.message : Fault → Text
  | loneClosing => Text.lit "Single '\x7d' encountered in format string"
  | loneOpening => Text.lit "Single '\x7b' encountered in format string"
  | openingInName => Text.lit "unexpected '\x7b' in field name"
  | unclosedName => Text.lit "expected '\x7d' before end of string"
  | missingConversion => Text.lit "end of string while looking for conversion specifier"
  | afterConversion => Text.lit "expected ':' after conversion specifier"
  | unclosedSpec => Text.lit "unmatched '\x7b' in format spec"

/-- The brace that opens a placeholder. -/
def opening : Char := '\x7b'

/-- The brace that closes a placeholder. -/
def closing : Char := '\x7d'

/-- Where in the markup the reader stands. Names and specifications are what has been read of them,
last character first. -/
inductive Place where
  | text
  | opened
  | closed
  | name (read : Text)
  | index (read : Text)
  | conversion (name : Text)
  | converted (name : Text) (conversion : Option Char)
  | spec (name : Text) (conversion : Option Char) (depth : Nat) (read : Text)

/-- A step of the reader: the place behind a character, and the item that the character
completes. -/
abbrev Step := Except Fault (Place × Option Item)

/-- Read a character of a name. -/
def nameStep (read : Text) (c : Char) : Step :=
  if c = opening then .error .openingInName
  else if c = '[' then .ok (.index (c :: read), none)
  else if c = closing then .ok (.text, some (.placeholder ⟨read.reverse, none, []⟩))
  else if c = ':' then .ok (.spec read.reverse none 0 [], none)
  else if c = '!' then .ok (.conversion read.reverse, none)
  else .ok (.name (c :: read), none)

/-- Read a character. A null character is no conversion. -/
def Place.next (place : Place) (c : Char) : Step :=
  match place with
  | .text =>
      if c = opening then .ok (.opened, none)
      else if c = closing then .ok (.closed, none)
      else .ok (.text, some (.char c))
  | .opened => if c = opening then .ok (.text, some (.char c)) else nameStep [] c
  | .closed => if c = closing then .ok (.text, some (.char c)) else .error .loneClosing
  | .name read => nameStep read c
  | .index read =>
      .ok (if c = ']' then .name (c :: read) else .index (c :: read), none)
  | .conversion field =>
      .ok (.converted field (if c = '\x00' then none else some c), none)
  | .converted field mark =>
      if c = closing then .ok (.text, some (.placeholder ⟨field, mark, []⟩))
      else if c = ':' then .ok (.spec field mark 0 [], none)
      else .error .afterConversion
  | .spec field mark depth read =>
      if c = opening then .ok (.spec field mark (depth + 1) (c :: read), none)
      else if c = closing then
        match depth with
        | 0 => .ok (.text, some (.placeholder ⟨field, mark, read.reverse⟩))
        | outer + 1 => .ok (.spec field mark outer (c :: read), none)
      else .ok (.spec field mark depth (c :: read), none)

/-- What is wrong with a text that ends here, if anything. -/
def Place.fault? : Place → Option Fault
  | .text => none
  | .opened => some .loneOpening
  | .closed => some .loneClosing
  | .name _ | .index _ => some .unclosedName
  | .conversion _ => some .missingConversion
  | .converted .. | .spec .. => some .unclosedSpec

/-- The items of the text behind a place. -/
def itemsFrom (place : Place) : Text → Except Fault (List Item)
  | [] =>
      match place.fault? with
      | none => .ok []
      | some fault => .error fault
  | c :: rest =>
      match place.next c with
      | .error fault => .error fault
      | .ok (following, item) => (itemsFrom following rest).map (item.toList ++ ·)

/-- The items of a template. -/
def items (template : Text) : Except Fault (List Item) :=
  itemsFrom .text template

end TextCursor.Markup
