import TextCursor.Text
import TextCursor.Unicode.Printable

/-!
# Quoted text

How messages show a text: between quotes, with escapes for the quote itself, the backslash, and
characters that are not printable. The quotes are single ones unless the text has single quotes
and no double ones, so that a quote is escaped only when both kinds occur.
-/

namespace TextCursor.Quoted

/-- The apostrophe. -/
def single : Char := '\x27'

/-- The quotation mark. -/
def double : Char := '\x22'

/-- The quote that stands around this text. -/
def delimiter (text : Text) : Char :=
  if single ∈ text ∧ double ∉ text then double else single

/-- The lower-case hexadecimal digits of a number, with leading zeros up to the given width. -/
def hexadecimal (width code : Nat) : Text :=
  let digits := Nat.toDigits 16 code
  List.replicate (width - digits.length) '0' ++ digits

/-- The escape of a character by its code point, in the shortest of the three forms that holds
it. -/
def escapeCode (c : Char) : Text :=
  let code := c.toNat
  if code < 0x100 then '\\' :: 'x' :: hexadecimal 2 code
  else if code < 0x10000 then '\\' :: 'u' :: hexadecimal 4 code
  else '\\' :: 'U' :: hexadecimal 8 code

/-- A character as it stands between the given quotes. -/
def escape (quote c : Char) : Text :=
  if c = '\\' ∨ c = quote then ['\\', c]
  else if c = '\n' then ['\\', 'n']
  else if c = '\r' then ['\\', 'r']
  else if c = '\t' then ['\\', 't']
  else if Unicode.isPrintable c then [c]
  else escapeCode c

end Quoted

/-- The text between quotes, with escapes where they are needed. -/
def Text.quote (text : Text) : Text :=
  let quote := Quoted.delimiter text
  quote :: text.flatMap (Quoted.escape quote) ++ [quote]

end TextCursor
