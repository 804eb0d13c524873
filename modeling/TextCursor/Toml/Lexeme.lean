import TextCursor.Text

/-!
# Lexemes of settings documents

Settings documents are written in TOML. This module reads the smallest parts of a document off the
front of a text: blanks, comments and digits. A reader answers what it has read with the rest of the
text, or nothing when the text does not begin as it should. Readers that may come upon a number say
why they fail.
-/

namespace TextCursor.Toml

/-! ### Faults -/

/-- Why a text is no document: it is not well formed, or an integer in it has too many digits. Of
several faults the first one in the text counts. -/
inductive Fault where
  | malformed
  | tooManyDigits (digits : Nat)
  deriving DecidableEq

/-- The answer of a reader, which has to be there in a well-formed text. -/
def required {α : Type} (answer : Option α) : Except Fault α :=
  match answer with
  | some read => .ok read
  | none => .error .malformed

/-! ### Blanks and comments -/

/-- Spaces and tabs. -/
def isSpace (c : Char) : Bool :=
  c = ' ' || c = '\t'

/-- Spaces, tabs and line ends. -/
def isSpaceOrLineEnd (c : Char) : Bool :=
  isSpace c || c = '\n'

/-- Control characters apart from the tab. They stand neither in comments nor in strings on one
line. -/
def isForbidden (c : Char) : Bool :=
  (c.toNat < 0x20 && c ≠ '\t') || c.toNat = 0x7F

/-- The text behind spaces and tabs. -/
def skipSpace (text : Text) : Text :=
  text.dropWhile isSpace

/-- The text behind a comment, if one begins it. The comment reaches to the end of its line. -/
def skipComment? (text : Text) : Option Text :=
  match text with
  | '#' :: rest =>
      if (rest.takeWhile (· ≠ '\n')).any isForbidden then none
      else some (rest.dropWhile (· ≠ '\n'))
  | _ => some text

/-- The text behind spaces, line ends and comments, where the text may begin within a comment. -/
def skipLines? (inComment : Bool) : Text → Option Text
  | [] => some []
  | c :: rest =>
      if inComment then
        if c = '\n' then skipLines? false rest
        else if isForbidden c then none
        else skipLines? true rest
      else if isSpaceOrLineEnd c then skipLines? false rest
      else if c = '#' then skipLines? true rest
      else some (c :: rest)

/-- The text with line feeds alone at the ends of lines. -/
def unifyLineEnds : Text → Text
  | '\r' :: '\n' :: rest => '\n' :: unifyLineEnds rest
  | c :: rest => c :: unifyLineEnds rest
  | [] => []

/-! ### Digits -/

/-- Hexadecimal digits. -/
def isHexDigit (c : Char) : Bool :=
  c.isDigit || ('a' ≤ c.toLower && c.toLower ≤ 'f')

/-- The value of a hexadecimal digit. -/
def digitValue (c : Char) : Nat :=
  if c.isDigit then c.toNat - '0'.toNat else c.toLower.toNat - 'a'.toNat + 10

/-- The value of digits in the given base. -/
def digitsValue (base : Nat) (digits : Text) : Nat :=
  digits.foldl (fun n c => base * n + digitValue c) 0

/-- The value of exactly `width` digits in the given base. -/
def fixedDigits? (base width : Nat) (isDigit : Char → Bool) (text : Text) :
    Option (Nat × Text) :=
  let digits := text.take width
  if digits.length = width ∧ digits.all isDigit then
    some (digitsValue base digits, text.drop width)
  else none

/-- The digits that continue a number, where a single underscore may stand between two of them. -/
def moreDigits (isDigit : Char → Bool) : Text → Text × Text
  | '_' :: c :: rest =>
      if isDigit c then
        let (more, behind) := moreDigits isDigit rest
        (c :: more, behind)
      else ([], '_' :: c :: rest)
  | c :: rest =>
      if isDigit c then
        let (more, behind) := moreDigits isDigit rest
        (c :: more, behind)
      else ([], c :: rest)
  | [] => ([], [])

/-- One or more digits. -/
def digits? (isDigit : Char → Bool) (text : Text) : Option (Text × Text) :=
  match text with
  | c :: rest =>
      if isDigit c then
        let (more, behind) := moreDigits isDigit rest
        some (c :: more, behind)
      else none
  | [] => none

end TextCursor.Toml
