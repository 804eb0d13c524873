import Mathlib.Algebra.Field.Rat
import Mathlib.Data.List.TakeWhile
import Mathlib.Tactic.FieldSimp
import TextCursor.Proofs.Number.Scan

/-!
# The decimal value of a numeral

A numeral that may have a point is a sign or none, digits, and perhaps a point and more digits
(`Numeral.Parts`). It writes the sum of its digits, each of which counts the power of ten of its
place (`Numeral.decimal`). The conversion to binary64 reads all digits as one number and divides it
by a power of ten, which is the same rational number (`Numeral.value_append_div`).
-/

namespace TextCursor

namespace Numeral

/-- The sign of a numeral, its digits in front of the point and those behind it. -/
structure Parts (numeral sign whole fraction : Text) : Prop where
  text : (numeral = sign ++ whole ∧ fraction = []) ∨ numeral = sign ++ (whole ++ '.' :: fraction)
  sign : IsSign sign
  whole : AreDigits whole
  fraction : AreDigits fraction

/-- The number that digits in front of a point and behind it write: the last one in front of the
point counts ones, and the first one behind it tenths. -/
def decimal (whole fraction : Text) : ℚ :=
  Nat.ofDigits 10 (whole.reverse.map digitValue) +
    Nat.ofDigits 10⁻¹ (0 :: fraction.map digitValue)

variable {numeral sign whole fraction body : Text}

/-- A numeral that may have a point has these parts. -/
theorem exists_parts (h : IsNumeral .fractional numeral) :
    ∃ sign whole fraction, Parts numeral sign whole fraction := by
  obtain ⟨sign, body, rfl, hsign, hbody⟩ := h
  cases hbody with
  | digits _ hdigits hne => exact ⟨sign, _, [], .inl ⟨rfl, rfl⟩, hsign, hdigits, areDigits_nil⟩
  | pointed hwhole hne hfraction => exact ⟨sign, _, _, .inr rfl, hsign, hwhole, hfraction⟩
  | leadingPoint hfraction hne => exact ⟨sign, [], _, .inr rfl, hsign, areDigits_nil, hfraction⟩

/-- Digits in front of others count as many powers of ten more as there are others. -/
theorem value_append (whole fraction : Text) :
    value (whole ++ fraction) = value fraction + 10 ^ fraction.length * value whole := by
  rw [value_eq_ofDigits, value_eq_ofDigits, value_eq_ofDigits, List.reverse_append,
    List.map_append, Nat.ofDigits_append, List.length_map, List.length_reverse]

/-- The digits behind a point, read as one number, count the power of a tenth of the last one. -/
theorem value_div (fraction : Text) :
    (value fraction / 10 ^ fraction.length : ℚ) =
      Nat.ofDigits 10⁻¹ (0 :: fraction.map digitValue) := by
  induction fraction with
  | nil => simp [value, Nat.ofDigits]
  | cons c later ih =>
      have hvalue : value (c :: later) = value later + 10 ^ later.length * digitValue c := by
        rw [← List.singleton_append, value_append]
        simp [value, digitValue]
      have htenths : Nat.ofDigits (10⁻¹ : ℚ) (0 :: (c :: later).map digitValue) =
          (digitValue c + Nat.ofDigits 10⁻¹ (0 :: later.map digitValue)) / 10 := by
        simp only [List.map_cons, Nat.ofDigits, Nat.cast_zero]
        ring
      rw [htenths, ← ih, hvalue, List.length_cons]
      push_cast
      field_simp
      ring

/-- All digits read as one number, over the power of ten of the digits behind the point, are the
number that the digits write. -/
theorem value_append_div (whole fraction : Text) :
    (value (whole ++ fraction) / 10 ^ fraction.length : ℚ) = decimal whole fraction := by
  have hwhole : (value whole : ℚ) = Nat.ofDigits 10 (whole.reverse.map digitValue) := by
    rw [value_eq_ofDigits, Nat.coe_ofDigits, Nat.cast_ofNat]
  rw [decimal, ← hwhole, ← value_div, value_append]
  push_cast
  field_simp
  ring

/-- Behind a sign, what is not a sign is the unsigned numeral. -/
theorem unsigned_append (hsign : IsSign sign) (hbody : ∀ c ∈ body.head?, c ≠ '+' ∧ c ≠ '-') :
    unsigned (sign ++ body) = body := by
  rcases hsign with rfl | rfl | rfl
  · cases body with
    | nil => rfl
    | cons c later =>
        obtain ⟨hplus, hminus⟩ := hbody c rfl
        show unsigned (c :: later) = _
        rw [unsigned, if_neg (not_or.2 ⟨hplus, hminus⟩)]
  · rfl
  · rfl

/-- Without its sign, a numeral is its digits with the point between them, and what stands in front
of the point and behind it are the digits there. -/
theorem Parts.whole_and_fraction (h : Parts numeral sign whole fraction) :
    (unsigned numeral).takeWhile (· ≠ '.') = whole ∧
      ((unsigned numeral).dropWhile (· ≠ '.')).drop 1 = fraction := by
  have hplain : ∀ {c : Char}, c.isDigit → c ≠ '+' ∧ c ≠ '-' := by
    intro c hc
    constructor <;> rintro rfl <;> cases hc
  have hpasses : ∀ c ∈ whole, decide (c ≠ '.') = true := by
    intro c hc
    rw [decide_eq_true_iff]
    rintro rfl
    cases h.whole _ hc
  rcases h.text with ⟨rfl, rfl⟩ | rfl
  · have hbody : ∀ c ∈ whole.head?, c ≠ '+' ∧ c ≠ '-' :=
      fun c hc => hplain (h.whole c (List.mem_of_mem_head? hc))
    rw [unsigned_append h.sign hbody, List.takeWhile_eq_self_iff.2 hpasses,
      List.dropWhile_eq_nil_iff.2 hpasses]
    exact ⟨rfl, rfl⟩
  · have hbody : ∀ c ∈ (whole ++ '.' :: fraction).head?, c ≠ '+' ∧ c ≠ '-' := by
      intro c hc
      cases whole with
      | nil =>
          cases hc
          decide
      | cons d later =>
          cases hc
          exact hplain (h.whole _ List.mem_cons_self)
    rw [unsigned_append h.sign hbody, List.takeWhile_append_of_pos hpasses,
      List.dropWhile_append_of_pos hpasses]
    simp

/-- The conversion rounds all digits of a numeral, read as one number, over a power of ten. -/
theorem Parts.toBinary64_eq (h : Parts numeral sign whole fraction) :
    toBinary64 numeral = Binary64.ofRatio (isNegative numeral) (value (whole ++ fraction))
      (Nat.pow 10 fraction.length) := by
  obtain ⟨hwhole, hfraction⟩ := h.whole_and_fraction
  unfold toBinary64
  dsimp only
  rw [hwhole, hfraction]

end Numeral

end TextCursor
