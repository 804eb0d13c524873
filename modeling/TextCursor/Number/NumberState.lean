import TextCursor.Text

/-!
# States of a number scan

A number is an optional sign, digits and, where a fraction is admitted, one point among or beside
the digits. The states say how much of that has been read, and are ordered by their ranks.
-/

namespace TextCursor

/-- How much of a number has been read. -/
inductive NumberState where
  | start
  | sign
  | integer
  | fraction
  deriving DecidableEq, Repr

namespace NumberState

/-- All states, in ascending order. -/
def all : List NumberState :=
  [start, sign, integer, fraction]

/-- The position of the state in the order. -/
def rank : NumberState → Nat
  | start => 0
  | sign => 1
  | integer => 2
  | fraction => 3

/-- The state of this rank, if there is one. -/
def ofRank? (rank : Int) : Option NumberState :=
  all.find? fun state => (state.rank : Int) = rank

/-- The state comes before the other one. -/
def precedes (a b : NumberState) : Bool :=
  a.rank < b.rank

/-- The name of the state. -/
def name : NumberState → Text
  | start => Text.lit "start"
  | sign => Text.lit "sign"
  | integer => Text.lit "integer"
  | fraction => Text.lit "fraction"

end NumberState

end TextCursor
