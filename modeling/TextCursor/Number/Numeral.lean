import TextCursor.Number.Binary64
import TextCursor.Number.NumberState
import TextCursor.Segmentation.ClusterTest

/-!
# Numerals at the front of a text

`Numeral.scan` reads clusters for as long as they continue a number and answers their text if it
has a digit at all. `Numeral.toInt` and `Numeral.toBinary64` give the values of what it accepts: a
sign, decimal digits and perhaps a point.

Integers in decimal digits may only be so long, wherever they are read. The limit counts digits, not
signs, and leading zeros count. It does not apply to numbers with a fraction or an exponent, nor to
integers in other bases.
-/

namespace TextCursor

/-- The two kinds of number: integers, and numbers that may have a point. -/
inductive NumberKind where
  | whole
  | fractional
  deriving DecidableEq, Repr

/-- The state once a cluster has been read, or `none` when it does not continue the number. A sign
comes first or not at all, and there is at most one point. -/
def NumberState.next (kind : NumberKind) (state : NumberState) (cluster : Text) :
    Option NumberState :=
  if state = .start ∧ (cluster = ['+'] ∨ cluster = ['-']) then some .sign
  else if Cluster.isDigit cluster then
    some (if state = .fraction then .fraction else .integer)
  else if kind = .fractional ∧ state ≠ .fraction ∧ cluster = ['.'] then some .fraction
  else none

namespace Numeral

/-- The number of digits that an integer may have, leading zeros included. -/
def digitLimit : Nat := 4300

/-- The wording for an integer that has this many digits, more than the limit. -/
def excessMessage (digits : Nat) : Text :=
  Text.lit "Exceeds the limit (" ++ Text.ofNat digitLimit
    ++ Text.lit " digits) for integer string conversion: value has " ++ Text.ofNat digits
    ++ Text.lit " digits; use sys.set_int_max_str_digits() to increase the limit"

/-- The clusters that continue a number from the given state. -/
def accepted (kind : NumberKind) : NumberState → List Text → List Text
  | _, [] => []
  | state, cluster :: later =>
      match state.next kind cluster with
      | some following => cluster :: accepted kind following later
      | none => []

/-- The numeral in front of the clusters: the text of all clusters that continue a number, or
`none` when there is no digit among them. -/
def scan (kind : NumberKind) (clusters : List Text) : Option Text :=
  let numeral := (accepted kind .start clusters).flatten
  if numeral.any Char.isDigit then some numeral else none

/-- The numeral begins with a minus sign. -/
def isNegative (numeral : Text) : Bool :=
  numeral.head? = some '-'

/-- The numeral without its sign. -/
def unsigned : Text → Text
  | [] => []
  | c :: rest => if c = '+' ∨ c = '-' then rest else c :: rest

/-- The number that decimal digits spell, most significant first. -/
def value (digits : Text) : Nat :=
  digits.foldl (fun n c => 10 * n + (c.toNat - '0'.toNat)) 0

/-- The value of an integer numeral; `none` when it has more digits than the limit. -/
def toInt? (numeral : Text) : Option Int :=
  let digits := unsigned numeral
  if digitLimit < digits.length then none
  else
    let n : Int := value digits
    some (if isNegative numeral then -n else n)

/-- The binary64 number nearest to the value of a numeral. The digits on both sides of the point
are read as one number, which the digits behind the point divide by as many powers of ten. -/
def toBinary64 (numeral : Text) : Binary64 :=
  let body := unsigned numeral
  let whole := body.takeWhile (· ≠ '.')
  let fraction := (body.dropWhile (· ≠ '.')).drop 1
  Binary64.ofRatio (isNegative numeral) (value (whole ++ fraction)) (Nat.pow 10 fraction.length)

end Numeral

end TextCursor
