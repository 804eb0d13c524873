import TextCursor.Datum
import TextCursor.Number.Numeral
import TextCursor.Toml.Lexeme

/-!
# Numbers of settings documents

A decimal number is an integer unless it has a fraction or an exponent. Integers may also be written
in base 16, 8 or 2, and there are words for infinity and for what is no number. Decimal integers
have a limit on their digits.
-/

namespace TextCursor.Toml

/-- A natural number in base 16, 8 or 2, behind its leading zero. -/
def prefixed? (text : Text) : Option (Nat × Text) :=
  let digitsIn (base : Nat) (isDigit : Char → Bool) (rest : Text) : Option (Nat × Text) := do
    let (digits, behind) ← digits? isDigit rest
    some (digitsValue base digits, behind)
  match text with
  | 'x' :: rest => digitsIn 16 isHexDigit rest
  | 'o' :: rest => digitsIn 8 (fun c => '0' ≤ c && c ≤ '7') rest
  | 'b' :: rest => digitsIn 2 (fun c => c = '0' || c = '1') rest
  | _ => none

/-- The fraction of a number, if it has one. -/
def fraction (text : Text) : Option Text × Text :=
  match text with
  | '.' :: rest =>
      match digits? Char.isDigit rest with
      | some (digits, behind) => (some digits, behind)
      | none => (none, text)
  | _ => (none, text)

/-- The sign of a number, if it has one, and the text behind it: a number is negative when it has
a minus sign. -/
def sign (text : Text) : Bool × Text :=
  match text with
  | '-' :: rest => (true, rest)
  | '+' :: rest => (false, rest)
  | _ => (false, text)

/-- A natural number with the sign that has been read for it. -/
def signed (negative : Bool) (n : Nat) : Int :=
  if negative then -n else n

/-- The exponent of a number, if it has one. -/
def exponent (text : Text) : Option Int × Text :=
  match text with
  | c :: rest =>
      if c = 'e' ∨ c = 'E' then
        let (negative, unsigned) := sign rest
        match digits? Char.isDigit unsigned with
        | some (digits, behind) => (some (signed negative (digitsValue 10 digits)), behind)
        | none => (none, text)
      else (none, text)
  | [] => (none, text)

/-- The whole part of a decimal number, without superfluous zeros in front. -/
def wholePart? (text : Text) : Option (Text × Text) :=
  match text with
  | '0' :: rest => some (['0'], rest)
  | _ => digits? Char.isDigit text

/-- A decimal number behind its sign. -/
def decimal (negative : Bool) (text : Text) : Except Fault (Datum × Text) := do
  let (whole, behind) ← required (wholePart? text)
  match fraction behind with
  | (none, behind) =>
      match exponent behind with
      | (none, behind) =>
          if Numeral.digitLimit < whole.length then .error (.tooManyDigits whole.length)
          else .ok (.int (signed negative (digitsValue 10 whole)), behind)
      | (some power, behind) =>
          .ok (.float (.ofDecimal negative (digitsValue 10 whole) power), behind)
  | (some places, behind) =>
      let (power, behind) := exponent behind
      let n := digitsValue 10 (whole ++ places)
      .ok (.float (.ofDecimal negative n (power.getD 0 - places.length)), behind)

/-- A number of any form. -/
def number (text : Text) : Except Fault (Datum × Text) :=
  let other :=
    match text with
    | '0' :: rest => prefixed? rest
    | _ => none
  match other with
  | some (n, behind) => .ok (.int n, behind)
  | none =>
      let (negative, unsigned) := sign text
      match unsigned with
      | 'i' :: 'n' :: 'f' :: behind => .ok (.float (.infinity negative), behind)
      | 'n' :: 'a' :: 'n' :: behind => .ok (.float .notANumber, behind)
      | _ => decimal negative unsigned

end TextCursor.Toml
