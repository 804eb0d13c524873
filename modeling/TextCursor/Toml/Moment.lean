import TextCursor.Datum
import TextCursor.Toml.Lexeme

/-!
# Dates and times of settings documents

A date is a year, a month and a day; a time is an hour, a minute, a second and perhaps a fraction of
a second. A date and a time together may have an offset from universal time. Days have to be in the
calendar, which has no year zero, and times run from midnight to a second before midnight.
-/

namespace TextCursor.Toml

/-- The text behind this character, if it begins with it. -/
def behind? (c : Char) (text : Text) : Option Text :=
  match text with
  | first :: rest => if first = c then some rest else none
  | [] => none

/-- A number of exactly `width` decimal digits that lies between two bounds, both included. -/
def between? (width low high : Nat) (text : Text) : Option (Nat × Text) :=
  match fixedDigits? 10 width Char.isDigit text with
  | some (n, rest) => if low ≤ n ∧ n ≤ high then some (n, rest) else none
  | none => none

/-- The number of days in a month of a year. -/
def daysInMonth (year month : Nat) : Nat :=
  if month = 2 then
    if year % 4 = 0 ∧ (year % 100 ≠ 0 ∨ year % 400 = 0) then 29 else 28
  else if month ∈ [4, 6, 9, 11] then 30
  else 31

/-- The text behind a date. -/
def skipDate? (text : Text) : Option Text := do
  let (year, rest) ← between? 4 1 9999 text
  let (month, rest) ← between? 2 1 12 (← behind? '-' rest)
  let (_, rest) ← between? 2 1 (daysInMonth year month) (← behind? '-' rest)
  some rest

/-- The text behind the fraction of a second, if there is one. -/
def skipFraction (text : Text) : Text :=
  match text with
  | '.' :: c :: rest => if c.isDigit then rest.dropWhile Char.isDigit else text
  | _ => text

/-- The text behind a time. -/
def skipTime? (text : Text) : Option Text := do
  let (_, rest) ← between? 2 0 23 text
  let (_, rest) ← between? 2 0 59 (← behind? ':' rest)
  let (_, rest) ← between? 2 0 59 (← behind? ':' rest)
  some (skipFraction rest)

/-- The text behind an offset from universal time: the letter Z, or a sign with hours and
minutes. -/
def skipOffset? (text : Text) : Option Text :=
  match text with
  | c :: rest =>
      if c = 'Z' ∨ c = 'z' then some rest
      else if c = '+' ∨ c = '-' then do
        let (_, rest) ← between? 2 0 23 rest
        let (_, rest) ← between? 2 0 59 (← behind? ':' rest)
        some rest
      else none
  | [] => none

/-- The text behind a time that follows a date, and behind its offset if it has one. The letter T
or a space stands between date and time. -/
def timeOfDate? (text : Text) : Option (MomentKind × Text) :=
  match text with
  | c :: rest =>
      if c = 'T' ∨ c = 't' ∨ c = ' ' then
        (skipTime? rest).map fun behind =>
          match skipOffset? behind with
          | some behind => (.offsetDateTime, behind)
          | none => (.localDateTime, behind)
      else none
  | [] => none

/-- A date or time. -/
def moment? (text : Text) : Option (Datum × Text) :=
  let ending : Option (MomentKind × Text) :=
    match skipDate? text with
    | some behind => some ((timeOfDate? behind).getD (.date, behind))
    | none => (skipTime? text).map fun behind => (.time, behind)
  ending.map fun (kind, behind) =>
    (.moment kind (text.take (text.length - behind.length)), behind)

end TextCursor.Toml
