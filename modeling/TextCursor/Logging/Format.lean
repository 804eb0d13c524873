import TextCursor.Text
import TextCursor.Unicode.Alphanumeric
import TextCursor.Unicode.DecimalDigit

/-!
# Log formats

A log format is a text with fields such as `%(message)s`. A format is usable when it has at least
one well-formed field, or is empty, which stands for the customary format.

A field is a percent sign, a name in round brackets, flags, a width, a precision, and the letter
of a conversion. A zero may be a flag or begin a width, but both readings end at the same place, and
no other two parts begin alike: reading each one as far as it goes never misses a field.
-/

namespace TextCursor.LogFormat

/-- The characters of names: letters and numbers of all scripts, and the underscore. -/
def isNameChar (c : Char) : Bool :=
  Unicode.isAlphanumeric c || c == '_'

/-- The characters that end a field, by what they convert to. Letter case does not matter, and the
letters outside ASCII whose other case is one of these count as well. -/
def isConversion (c : Char) : Bool :=
  c.toLower ∈ Text.lit "diouxefgcrsa%" || c.toNat ∈ [0x130, 0x131, 0x17F]

/-- The text behind a star or a number in decimal digits, of whatever scripts, if it begins with
one. -/
def afterAmount? (text : Text) : Option Text :=
  match text with
  | '*' :: rest => some rest
  | c :: rest =>
      if Unicode.isDecimalDigit c then some (rest.dropWhile Unicode.isDecimalDigit) else none
  | [] => none

/-- The text behind a point with an amount, or the same text where there is none. -/
def afterPrecision (text : Text) : Text :=
  match text with
  | '.' :: rest => (afterAmount? rest).getD text
  | _ => text

/-- The text is the rest of a field, behind the bracket that closes its name. -/
def endsField (text : Text) : Bool :=
  let unflagged := text.dropWhile (· ∈ Text.lit "#0+ -")
  match afterPrecision ((afterAmount? unflagged).getD unflagged) with
  | c :: _ => isConversion c
  | [] => false

/-- A field begins the text. -/
def beginsField (text : Text) : Bool :=
  match text with
  | '%' :: '(' :: rest =>
      match rest.takeWhile isNameChar, rest.dropWhile isNameChar with
      | _ :: _, ')' :: behind => endsField behind
      | _, _ => false
  | _ => false

/-- There is a field somewhere in the text. -/
def hasField : Text → Bool
  | [] => false
  | c :: rest => beginsField (c :: rest) || hasField rest

/-- The format can be used. -/
def isUsable (format : Text) : Bool :=
  format.isEmpty || hasField format

end TextCursor.LogFormat
