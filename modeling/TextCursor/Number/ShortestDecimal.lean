import TextCursor.Number.Binary64
import TextCursor.Text

/-!
# The shortest decimal of a binary64 number

The text of a binary64 number has the fewest digits that read back as that number and, of those,
the digits nearest to it. The reals that read back as a number form an interval, whose ends belong
to it when the significand is even; the fewest digits are found by trying one decimal grid after
the other, from coarse to fine, in exact arithmetic.
-/

namespace TextCursor.Binary64

/-- A positive decimal number, `digits * 10 ^ exponent`. -/
structure Decimal where
  digits : Nat
  exponent : Int

/-- A positive number with the ends of its rounding interval, all over one denominator: the number
is `value / den`, and the reals between `low / den` and `high / den` read back as it. The two ends
do so as well when the interval is closed. -/
structure Neighbourhood where
  low : Nat
  value : Nat
  high : Nat
  den : Nat
  closed : Bool

/-- The rounding interval of a finite positive number. Below a power of two the next number is
only half as far away as above it. -/
def neighbourhood (x : Binary64) : Neighbourhood :=
  let m := x.significand
  let up := Nat.pow 2 x.exponent.toNat
  let below := if m = Nat.pow 2 52 ∧ Nat.pow 2 53 ≤ x.magnitude then 1 else 2
  { low := (4 * m - below) * up
    value := 4 * m * up
    high := (4 * m + 2) * up
    den := 4 * Nat.pow 2 (-x.exponent).toNat
    closed := m % 2 = 0 }

/-- The order of `a * 10 ^ k` and `b / den`. -/
def comparePower (a : Nat) (k : Int) (b den : Nat) : Ordering :=
  if 0 ≤ k then compare (a * Nat.pow 10 k.toNat * den) b
  else compare (a * den) (b * Nat.pow 10 (-k).toNat)

/-- The decimal `a * 10 ^ k` reads back as the number with this neighbourhood. -/
def Neighbourhood.admits (n : Neighbourhood) (a : Nat) (k : Int) : Bool :=
  let below := comparePower a k n.low n.den
  let above := comparePower a k n.high n.den
  (below == .gt || (n.closed && below == .eq)) && (above == .lt || (n.closed && above == .eq))

/-- The multiple of `10 ^ k` that reads back as the number: the nearer one of its two neighbours
on that grid, an even one when they are equally near. -/
def Neighbourhood.onGrid? (n : Neighbourhood) (k : Int) : Option Decimal :=
  let floor :=
    if 0 ≤ k then n.value / (n.den * Nat.pow 10 k.toNat)
    else n.value * Nat.pow 10 (-k).toNat / n.den
  match n.admits floor k, n.admits (floor + 1) k with
  | false, false => none
  | true, false => some ⟨floor, k⟩
  | false, true => some ⟨floor + 1, k⟩
  | true, true =>
      match comparePower (2 * floor + 1) k (2 * n.value) n.den with
      | .gt => some ⟨floor, k⟩
      | .lt => some ⟨floor + 1, k⟩
      | .eq => some ⟨floor + floor % 2, k⟩

/-- The greatest `p` with `10 ^ p ≤ num / den`, for positive numbers. -/
def floorLog10 (num den : Nat) : Int :=
  let guess : Int := (Nat.toDigits 10 num).length - (Nat.toDigits 10 den).length
  if powerAtMost 10 guess num den then guess else guess - 1

/-- The shortest decimal of a finite positive number. Seventeen digits always suffice. -/
def shortest (x : Binary64) : Decimal :=
  let n := x.neighbourhood
  let top := floorLog10 n.value n.den
  ((List.range 17).findSome? fun (more : Nat) => n.onGrid? (top - more)).getD ⟨0, 0⟩

/-- The digits without trailing zeros, and the place of the point: the number of digits before it,
not positive when zeros follow it first. -/
def Decimal.normal (d : Decimal) : Text × Int :=
  let digits := Text.ofNat d.digits
  ((digits.reverse.dropWhile (· = '0')).reverse, digits.length + d.exponent)

/-- Digits with a point, and zeros where the point lies outside them. There is always a digit on
each side of the point. -/
def positional (digits : Text) (point : Int) : Text :=
  if point ≤ 0 then Text.lit "0." ++ List.replicate (-point).toNat '0' ++ digits
  else
    let whole := point.toNat
    let padded := digits ++ List.replicate (whole - digits.length) '0'
    padded.take whole ++ '.' :: (if padded.length ≤ whole then ['0'] else padded.drop whole)

/-- Digits in scientific notation. The exponent has a sign and at least two digits. -/
def scientific (digits : Text) (point : Int) : Text :=
  let power := point - 1
  let places := Text.ofNat power.natAbs
  let fraction := if digits.length ≤ 1 then [] else '.' :: digits.drop 1
  digits.take 1 ++ fraction ++ ['e', if power < 0 then '-' else '+']
    ++ (if places.length < 2 then ['0'] else []) ++ places

/-- The text of a number. Numbers from `1e-4` up to `1e16` are written positionally. -/
def toText (x : Binary64) : Text :=
  if infinityMagnitude < x.magnitude then Text.lit "nan"
  else
    let absolute :=
      if x.magnitude = infinityMagnitude then Text.lit "inf"
      else if x.magnitude = 0 then Text.lit "0.0"
      else
        let (digits, point) := x.shortest.normal
        if -4 < point ∧ point ≤ 16 then positional digits point else scientific digits point
    if x.negative then '-' :: absolute else absolute

end TextCursor.Binary64
