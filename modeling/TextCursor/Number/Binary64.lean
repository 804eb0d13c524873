/-!
# Binary64 numbers

A binary64 number is a sign and a magnitude. The magnitude is the number's bit pattern without the
sign bit, which makes the order of the magnitudes the order of the absolute values and makes
rounding up across a power of two a plain increment.

`ofRatio` gives the binary64 number nearest to a ratio of natural numbers, ties going to the even
significand. All arithmetic is exact, on natural numbers.
-/

namespace TextCursor

/-- A binary64 number: its sign, and its exponent and fraction fields as one natural number. -/
structure Binary64 where
  negative : Bool
  magnitude : Nat
  deriving DecidableEq, Repr

namespace Binary64

/-- The magnitude at which the exponent field is all ones: infinity. -/
def infinityMagnitude : Nat := 2047 * Nat.pow 2 52

/-- Zero of the given sign. -/
def zero (negative : Bool) : Binary64 := ⟨negative, 0⟩

/-- Infinity of the given sign. -/
def infinity (negative : Bool) : Binary64 := ⟨negative, infinityMagnitude⟩

/-- The value that stands for no number. -/
def notANumber : Binary64 := ⟨false, infinityMagnitude + Nat.pow 2 51⟩

/-- The 64 bits of the number, sign first. -/
def bits (x : Binary64) : Nat :=
  (if x.negative then Nat.pow 2 63 else 0) + x.magnitude

/-- The significand of a finite number, an integer below `2 ^ 53`. -/
def significand (x : Binary64) : Nat :=
  if x.magnitude < Nat.pow 2 52 then x.magnitude
  else x.magnitude % Nat.pow 2 52 + Nat.pow 2 52

/-- The power of two that the significand of a finite number counts. -/
def exponent (x : Binary64) : Int :=
  max (x.magnitude / Nat.pow 2 52 : Nat) 1 - 1075

/-- The value of a finite number. -/
def toRat (x : Binary64) : Rat :=
  let absolute : Int := x.significand * Nat.pow 2 x.exponent.toNat
  mkRat (if x.negative then -absolute else absolute) (Nat.pow 2 (-x.exponent).toNat)

/-- The quotient rounded to the nearest natural number, a half going to the even neighbour. -/
def roundDiv (num den : Nat) : Nat :=
  let quotient := num / den
  let twice := 2 * (num % den)
  if den < twice ∨ (twice = den ∧ quotient % 2 = 1) then quotient + 1 else quotient

/-- The power `base ^ p` is at most `num / den`. -/
def powerAtMost (base : Nat) (p : Int) (num den : Nat) : Bool :=
  if 0 ≤ p then den * Nat.pow base p.toNat ≤ num else den ≤ num * Nat.pow base (-p).toNat

/-- The greatest `e` with `2 ^ e ≤ num / den`, for positive numbers. -/
def floorLog2 (num den : Nat) : Int :=
  let guess : Int := (num.log2 : Int) - den.log2
  if powerAtMost 2 guess num den then guess else guess - 1

/-- The magnitude nearest to `num / den`, ties going to the even significand; that of infinity
when the ratio rounds past the largest finite number. The unit of the last place is the power of
two 52 places below the leading one, and never less than that of subnormal numbers. -/
def magnitudeOfRatio (num den : Nat) : Nat :=
  if num = 0 then 0
  else
    let unit := max (floorLog2 num den) (-1022) - 52
    let rounded :=
      if 0 ≤ unit then roundDiv num (den * Nat.pow 2 unit.toNat)
      else roundDiv (num * Nat.pow 2 (-unit).toNat) den
    min ((unit + 1074).toNat * Nat.pow 2 52 + rounded) infinityMagnitude

/-- The binary64 number nearest to `num / den`, with the given sign also when it is zero. -/
def ofRatio (negative : Bool) (num den : Nat) : Binary64 :=
  ⟨negative, magnitudeOfRatio num den⟩

/-- The binary64 number nearest to `digits * 10 ^ exponent`. Decimals that lie outside every
binade are settled by their size alone, so that no huge power is ever formed. -/
def ofDecimal (negative : Bool) (digits : Nat) (exponent : Int) : Binary64 :=
  let size : Int := (Nat.toDigits 10 digits).length + exponent
  if digits = 0 ∨ size < -330 then zero negative
  else if 310 < size then infinity negative
  else if 0 ≤ exponent then ofRatio negative (digits * Nat.pow 10 exponent.toNat) 1
  else ofRatio negative digits (Nat.pow 10 (-exponent).toNat)

end Binary64

end TextCursor
