import TextCursor.Proofs.Number.Rounding

/-!
# The numbers of bit patterns

A pattern of 64 bits has a sign bit, an exponent field and a fraction field, and stands for a
rational number unless its exponent field is all ones (`BitPattern.value`). The patterns of binary64
numbers are put together from a sign and a magnitude, which can be read off them again
(`BitPattern.value_bits`). `BitPattern.unsignedValue_compose` reads a magnitude off that is made of
a multiple of the hidden bit and a significand, also where the significand has been rounded up to
the next power of two.
-/

namespace TextCursor

namespace BitPattern

/-- The highest of the 64 bits. -/
def signBit (bits : ℕ) : ℕ :=
  bits / 2 ^ 63

/-- The 11 bits below the sign. -/
def exponentField (bits : ℕ) : ℕ :=
  bits / 2 ^ 52 % 2 ^ 11

/-- The 52 bits below the exponent. -/
def fractionField (bits : ℕ) : ℕ :=
  bits % 2 ^ 52

/-- The significand: the fraction, with the hidden bit above it unless the exponent field is
zero. -/
def significand (bits : ℕ) : ℕ :=
  if exponentField bits = 0 then fractionField bits else 2 ^ 52 + fractionField bits

/-- The absolute value of the number that a finite pattern stands for. -/
def unsignedValue (bits : ℕ) : ℚ :=
  significand bits * 2 ^ ((max (exponentField bits) 1 : ℕ) - 1075 : ℤ)

/-- The number that a finite pattern stands for. -/
def value (bits : ℕ) : ℚ :=
  if signBit bits = 1 then -unsignedValue bits else unsignedValue bits

/-- The pattern has 64 bits and stands for a number. -/
def IsFinite (bits : ℕ) : Prop :=
  bits < 2 ^ 64 ∧ exponentField bits < 2047

/-- The pattern has 64 bits and stands for infinity of its sign. -/
def IsInfinite (bits : ℕ) : Prop :=
  bits < 2 ^ 64 ∧ exponentField bits = 2047 ∧ fractionField bits = 0

variable {bits k n : ℕ}

/-- No pattern stands both for a number and for infinity. -/
theorem IsFinite.not_isInfinite (h : IsFinite bits) : ¬ IsInfinite bits := by
  rintro ⟨-, hones, -⟩
  have hfield := h.2
  omega

/-- The fraction is shorter than the hidden bit is high. -/
theorem significand_lt (bits : ℕ) : significand bits < 2 ^ 53 := by
  unfold significand fractionField
  split <;> omega

/-- The absolute value is not negative. -/
theorem unsignedValue_nonneg (bits : ℕ) : 0 ≤ unsignedValue bits := by
  unfold unsignedValue
  positivity

/-- A sign does not change the absolute value. -/
theorem abs_signed (p : Prop) [Decidable p] {r : ℚ} (hr : 0 ≤ r) : |if p then -r else r| = r := by
  split
  · rw [abs_neg, abs_of_nonneg hr]
  · exact abs_of_nonneg hr

/-- The absolute value is the absolute value of the number. -/
theorem abs_value (bits : ℕ) : |value bits| = unsignedValue bits :=
  abs_signed _ (unsignedValue_nonneg bits)

/-- A magnitude is read off what it is put together from: a number of hidden bits, and a significand
that has its own hidden bit if there are any others, or is one too large. -/
theorem unsignedValue_compose (hn : n ≤ 2 ^ 53) (hhidden : k = 0 ∨ 2 ^ 52 ≤ n)
    (hfinite : k * 2 ^ 52 + n < 2047 * 2 ^ 52) :
    unsignedValue (k * 2 ^ 52 + n) = n * 2 ^ (k - 1074 : ℤ) ∧
      significand (k * 2 ^ 52 + n) % 2 = n % 2 := by
  have hfield : exponentField (k * 2 ^ 52 + n) = k + n / 2 ^ 52 := by
    unfold exponentField
    omega
  have hfraction : fractionField (k * 2 ^ 52 + n) = n % 2 ^ 52 := by
    unfold fractionField
    omega
  unfold unsignedValue significand
  rw [hfield, hfraction]
  rcases Nat.lt_or_ge n (2 ^ 52) with hsmall | hlarge
  · -- there is no hidden bit at all
    obtain rfl := hhidden.resolve_right (by omega)
    rw [Nat.div_eq_of_lt hsmall, Nat.mod_eq_of_lt hsmall]
    exact ⟨rfl, rfl⟩
  · rw [if_neg (by omega : ¬ k + n / 2 ^ 52 = 0)]
    rcases Nat.lt_or_ge n (2 ^ 53) with hfits | hcarry
    · -- the hidden bit of the significand is one of the hidden bits
      have hquotient : n / 2 ^ 52 = 1 := by omega
      have hwhole : 2 ^ 52 + n % 2 ^ 52 = n := by omega
      have hexponent : ((max (k + 1) 1 : ℕ) - 1075 : ℤ) = k - 1074 := by omega
      rw [hquotient, hwhole, hexponent]
      exact ⟨rfl, rfl⟩
    · -- the significand is the next power of two, and half of it counts twice the unit
      obtain rfl : n = 2 ^ 53 := by omega
      have hexponent : ((max (k + 2 ^ 53 / 2 ^ 52) 1 : ℕ) - 1075 : ℤ) = k - 1074 + 1 := by omega
      rw [hexponent, zpow_add_one₀ two_ne_zero]
      refine ⟨?_, rfl⟩
      push_cast
      ring

/-- The pattern of a sign and a magnitude has this sign, and else the fields of the magnitude. -/
theorem fields_bits {x : Binary64} (h : x.magnitude < 2 ^ 63) :
    x.bits < 2 ^ 64 ∧ signBit x.bits = (if x.negative then 1 else 0) ∧
      exponentField x.bits = exponentField x.magnitude ∧
      fractionField x.bits = fractionField x.magnitude := by
  unfold Binary64.bits signBit exponentField fractionField
  rw [Nat.pow_eq]
  split <;> omega

/-- The value of a sign and a magnitude is the value of the magnitude with this sign. -/
theorem value_bits {x : Binary64} (h : x.magnitude < 2 ^ 63) :
    significand x.bits = significand x.magnitude ∧
      unsignedValue x.bits = unsignedValue x.magnitude ∧
      value x.bits = if x.negative then -unsignedValue x.magnitude
        else unsignedValue x.magnitude := by
  obtain ⟨-, hsign, hexponent, hfraction⟩ := fields_bits h
  have hsignificand : significand x.bits = significand x.magnitude := by
    unfold significand
    rw [hexponent, hfraction]
  have hunsigned : unsignedValue x.bits = unsignedValue x.magnitude := by
    unfold unsignedValue
    rw [hsignificand, hexponent]
  refine ⟨hsignificand, hunsigned, ?_⟩
  unfold value
  rw [hsign, hunsigned]
  cases x.negative <;> rfl

/-- The pattern of zero stands for zero. -/
theorem unsignedValue_zero : unsignedValue 0 = 0 := by
  have hsignificand : significand 0 = 0 := rfl
  unfold unsignedValue
  rw [hsignificand, Nat.cast_zero, zero_mul]

end BitPattern

end TextCursor
