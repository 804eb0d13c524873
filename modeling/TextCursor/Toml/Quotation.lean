import TextCursor.Toml.Lexeme

/-!
# Strings and keys of settings documents

A string stands between quotes. Between double quotes it is a basic string, which has escapes, and
between single quotes a literal one, which has none. Three quotes in a row open and close a string
that may go over several lines.

A key has one or more parts with points between them, and each part is bare or a string on one line.
-/

namespace TextCursor.Toml

/-! ### Strings on one line -/

/-- The character whose code point stands in the given number of hexadecimal digits. -/
def scalar? (width : Nat) (text : Text) : Option (Char × Text) :=
  match fixedDigits? 16 width isHexDigit text with
  | some (code, rest) => if code.isValidChar then some (Char.ofNat code, rest) else none
  | none => none

/-- The character that an escape stands for, behind its backslash. -/
def escape? (text : Text) : Option (Char × Text) :=
  match text with
  | 'b' :: rest => some ('\x08', rest)
  | 't' :: rest => some ('\t', rest)
  | 'n' :: rest => some ('\n', rest)
  | 'f' :: rest => some ('\x0c', rest)
  | 'r' :: rest => some ('\r', rest)
  | '\x22' :: rest => some ('\x22', rest)
  | '\\' :: rest => some ('\\', rest)
  | 'u' :: rest => scalar? 4 rest
  | 'U' :: rest => scalar? 8 rest
  | _ => none

/-- The rest of a basic string on one line, behind its opening quote. -/
def basicString? (fuel : Nat) (text : Text) : Option (Text × Text) :=
  match fuel, text with
  | 0, _ | _, [] => none
  | fuel + 1, c :: rest =>
      if c = '\x22' then some ([], rest)
      else if c = '\\' then do
        let (escaped, behind) ← escape? rest
        let (more, behind) ← basicString? fuel behind
        some (escaped :: more, behind)
      else if isForbidden c then none
      else do
        let (more, behind) ← basicString? fuel rest
        some (c :: more, behind)

/-- The rest of a literal string on one line, behind its opening quote. -/
def literalString? (text : Text) : Option (Text × Text) :=
  let body := text.takeWhile (· ≠ '\x27')
  match text.dropWhile (· ≠ '\x27') with
  | _ :: rest => if body.any isForbidden then none else some (body, rest)
  | [] => none

/-- A string on one line. -/
def lineString? (text : Text) : Option (Text × Text) :=
  match text with
  | '\x22' :: rest => basicString? (rest.length + 1) rest
  | '\x27' :: rest => literalString? rest
  | _ => none

/-! ### Strings over several lines -/

/-- Control characters that stand in no string: all but the tab and the line feed. -/
def isForbiddenInLines (c : Char) : Bool :=
  isForbidden c && c ≠ '\n'

/-- The end of a string over several lines, if it begins the text: three quotes in a row. Up to two
further quotes belong to the string and are answered with the text behind them. -/
def closingQuotes? (quote : Char) (text : Text) : Option (Text × Text) :=
  match text with
  | a :: b :: c :: rest =>
      if a = quote ∧ b = quote ∧ c = quote then
        let further := (rest.take 2).takeWhile (· = quote)
        some (further, rest.drop further.length)
      else none
  | _ => none

/-- The text behind a line end and all blanks and line ends that follow it, if only blanks come
before the line end. A backslash in front of this joins two lines. -/
def joinedLine? (text : Text) : Option Text :=
  match skipSpace text with
  | '\n' :: rest => some (rest.dropWhile isSpaceOrLineEnd)
  | _ => none

/-- The rest of a basic string over several lines, behind its opening quotes. -/
def basicLines? (fuel : Nat) (text : Text) : Option (Text × Text) :=
  match fuel, text with
  | 0, _ | _, [] => none
  | fuel + 1, c :: rest =>
      match closingQuotes? '\x22' (c :: rest) with
      | some ending => some ending
      | none =>
          if c = '\\' then
            match joinedLine? rest with
            | some behind => basicLines? fuel behind
            | none => do
                let (escaped, behind) ← escape? rest
                let (more, behind) ← basicLines? fuel behind
                some (escaped :: more, behind)
          else if isForbiddenInLines c then none
          else do
            let (more, behind) ← basicLines? fuel rest
            some (c :: more, behind)

/-- The rest of a literal string over several lines, behind its opening quotes. -/
def literalLines? : Text → Option (Text × Text)
  | [] => none
  | c :: rest =>
      match closingQuotes? '\x27' (c :: rest) with
      | some ending => some ending
      | none =>
          if isForbiddenInLines c then none
          else (literalLines? rest).map fun (more, behind) => (c :: more, behind)

/-- The text without the line end in front of it, if there is one. -/
def dropLineEnd (text : Text) : Text :=
  match text with
  | '\n' :: rest => rest
  | _ => text

/-- A string of any form. A line end right behind three opening quotes does not count. -/
def string? (text : Text) : Option (Text × Text) :=
  match text with
  | '\x22' :: '\x22' :: '\x22' :: rest => basicLines? (rest.length + 1) (dropLineEnd rest)
  | '\x27' :: '\x27' :: '\x27' :: rest => literalLines? (dropLineEnd rest)
  | _ => lineString? text

/-! ### Keys -/

/-- Characters of keys without quotes. -/
def isBareKeyChar (c : Char) : Bool :=
  c.isAlphanum || c = '-' || c = '_'

/-- One part of a key: bare, or a string on one line. -/
def keyPart? (text : Text) : Option (Text × Text) :=
  match text.takeWhile isBareKeyChar with
  | [] => lineString? text
  | bare => some (bare, text.dropWhile isBareKeyChar)

/-- The further parts of a key, each behind a point, and the text behind the spaces that follow. -/
def keyRest? (fuel : Nat) (text : Text) : Option (List Text × Text) :=
  match fuel, skipSpace text with
  | fuel + 1, '.' :: rest => do
      let (part, behind) ← keyPart? (skipSpace rest)
      let (more, behind) ← keyRest? fuel behind
      some (part :: more, behind)
  | _, behind => some ([], behind)

/-- A key of one or more parts, and the text behind the spaces that follow. -/
def key? (text : Text) : Option (List Text × Text) := do
  let (part, behind) ← keyPart? text
  let (more, behind) ← keyRest? behind.length behind
  some (part :: more, behind)

end TextCursor.Toml
