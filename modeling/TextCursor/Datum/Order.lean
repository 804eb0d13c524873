import TextCursor.Datum

/-!
# The order of data

Values have an order among their family. Numbers of all kinds are one family: they have their places
on one line, on which an integer and a fraction of the same value stand at the same place. Dates and
times are of one family only if they tell the same.
-/

namespace TextCursor

/-- Values that have an order among one another. -/
inductive Family where
  | nothing
  | number
  | text
  | moment (kind : MomentKind)
  | list
  | table
  deriving DecidableEq

namespace Datum

/-- The family of a value. Truth values are the numbers zero and one. -/
def family : Datum → Family
  | .null => .nothing
  | .bool _ | .int _ | .float _ => .number
  | .text _ => .text
  | .moment kind _ => .moment kind
  | .list _ => .list
  | .table _ => .table

/-- The place of a number on the line of all numbers: the infinities stand at its ends, to the left
and to the right of all finite numbers. What is no number has no place. -/
def place? : Datum → Option (Int × Rat)
  | .bool b => some (0, if b then 1 else 0)
  | .int n => some (0, n)
  | .float x =>
      if x.magnitude < Binary64.infinityMagnitude then some (0, x.toRat)
      else if x.magnitude = Binary64.infinityMagnitude then some (if x.negative then -1 else 1, 0)
      else none
  | _ => none

/-- The first value is a number, and the second one a greater number. -/
def isBelow (a b : Datum) : Bool :=
  match a.place?, b.place? with
  | some (end₁, x), some (end₂, y) => end₁ < end₂ || (end₁ = end₂ && x < y)
  | _, _ => false

end Datum

end TextCursor
