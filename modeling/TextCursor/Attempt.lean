import TextCursor.Datum

/-!
# Attempts

An operation that may find nothing answers an attempt: a value, or none. A value of null is still
a value, so an attempt that gave null differs from one that gave none.
-/

namespace TextCursor

mutual

/-- Both values are the same. -/
def Datum.same : Datum → Datum → Bool
  | .null, .null => true
  | .bool a, .bool b => a == b
  | .int a, .int b => a == b
  | .float a, .float b => a == b
  | .text a, .text b => a == b
  | .moment kind a, .moment other b => kind == other && a == b
  | .list a, .list b => sameItems a b
  | .table a, .table b => sameEntries a b
  | _, _ => false

/-- Both lists have the same items. -/
def sameItems : List Datum → List Datum → Bool
  | [], [] => true
  | a :: as, b :: bs => a.same b && sameItems as bs
  | _, _ => false

/-- Both tables have the same entries in the same order. -/
def sameEntries : List (Text × Datum) → List (Text × Datum) → Bool
  | [], [] => true
  | (key, a) :: as, (other, b) :: bs => key == other && a.same b && sameEntries as bs
  | _, _ => false

end

/-- A value that an operation may have found. -/
abbrev Attempt := Option Datum

namespace Attempt

/-- The value, or null where there is none. -/
def data (attempt : Attempt) : Datum :=
  attempt.getD .null

/-- Both attempts found the same, or nothing. -/
def same : Attempt → Attempt → Bool
  | none, none => true
  | some a, some b => a.same b
  | _, _ => false

/-- The attempt as messages show it. -/
def describe (attempt : Attempt) : Text :=
  Text.lit "Result(success=" ++ (Datum.bool attempt.isSome).describe ++ Text.lit ", data="
    ++ (data attempt).describe ++ Text.lit ")"

end Attempt

end TextCursor
