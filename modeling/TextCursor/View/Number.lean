import TextCursor.Datum
import TextCursor.Number.Numeral
import TextCursor.View.Basic

/-!
# Numbers at the front of a view

Peeking at a number leaves the view where it is; chopping moves it behind the numeral. Both answer
nothing when the view does not begin with a number, and both refuse an integer with too many
digits, without moving the view.
-/

namespace TextCursor

/-- Why a chopper does not give a value: the text does not begin with one, or it begins with an
integer of more digits than the limit. -/
inductive ChopFault where
  | refused (chopper : Text) (remainder : Text)
  | tooManyDigits (digits : Nat)
  deriving DecidableEq

namespace ChopFault

/-- What messages show of a remainder: up to 32 characters of it, and the first 29 of a longer
one. -/
def preview (remainder : Text) : Text :=
  if remainder.length ≤ 32 then remainder else remainder.take 29 ++ Text.lit "..."

/-- The wording of the fault. -/
def message : ChopFault → Text
  | refused chopper remainder =>
      Text.lit "Failed to chop `" ++ chopper ++ Text.lit "` from " ++ (preview remainder).quote
  | tooManyDigits digits => Numeral.excessMessage digits

end ChopFault

namespace Numeral

/-- The value of a numeral of the given kind. -/
def read (kind : NumberKind) (numeral : Text) : Except ChopFault Datum :=
  match kind with
  | .whole =>
      match toInt? numeral with
      | some n => .ok (.int n)
      | none => .error (.tooManyDigits (unsigned numeral).length)
  | .fractional => .ok (.float (toBinary64 numeral))

end Numeral

/-- A number that stands at the front of a window, and the window behind its numeral. -/
structure Reading where
  value : Datum
  rest : Window

namespace Window

/-- The number at the front of the window, if there is one. -/
def readNumber (w : Window) (clusters : List Text) (kind : NumberKind) :
    Except ChopFault (Option Reading) :=
  match Numeral.scan kind clusters with
  | none => .ok none
  | some numeral => (Numeral.read kind numeral).map fun value =>
      some ⟨value, w.drop numeral.length⟩

end Window

/-- The value of a kind of number where there is none to read. -/
def NumberKind.zero : NumberKind → Datum
  | .whole => .int 0
  | .fractional => .float (.zero false)

namespace View

/-- The number at the front of the view, if there is one. -/
def peekNumber (v : View) (segmenter : Segmenter) (kind : NumberKind) :
    Except ChopFault (Option Datum) :=
  (v.window.readNumber (v.clusters segmenter) kind).map (·.map Reading.value)

/-- The number at the front of the view, if there is one, and the view behind it. -/
def chopNumber (v : View) (segmenter : Segmenter) (kind : NumberKind) :
    Except ChopFault (Option (Datum × View)) :=
  (v.window.readNumber (v.clusters segmenter) kind).map
    (·.map fun reading => (reading.value, v.move reading.rest))

end View

end TextCursor
