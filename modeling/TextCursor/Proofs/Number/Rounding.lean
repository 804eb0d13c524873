import Mathlib.Algebra.Order.Field.Power
import Mathlib.Tactic.Linarith
import Mathlib.Tactic.Positivity
import Mathlib.Tactic.Ring
import TextCursor.Number.Binary64

/-!
# Rounding ratios

The arithmetic on natural numbers behind a binary64 number, told of the rational number that it is
about. A rounded quotient is no more than a half away, and even if it is a half away
(`Binary64.rounds_roundDiv`), which makes it the nearest integer (`Binary64.Rounds.le_abs`). The
same holds of a ratio that is measured in units of a power of two (`Binary64.rounds_scaled`), and
`Binary64.floorLog2_spec` finds the power of two below a ratio.
-/

namespace TextCursor

namespace Binary64

/-- The natural number is at most a half away from the rational number, and even if it is a half
away. -/
structure Rounds (q : ℚ) (n : ℕ) : Prop where
  near : |q - n| ≤ 1 / 2
  even : |q - n| = 1 / 2 → n % 2 = 0

variable {q : ℚ} {m n num den : ℕ}

/-- A natural number rounds a ratio if twice the numerator is at most the denominator away from
twice its multiple of the denominator. -/
theorem rounds_of_twice (hden : 0 < den) (hlow : 2 * (n * den) ≤ 2 * num + den)
    (hhigh : 2 * num ≤ 2 * (n * den) + den)
    (htie : 2 * (n * den) = 2 * num + den ∨ 2 * num = 2 * (n * den) + den → n % 2 = 0) :
    Rounds (num / den) n := by
  have hpos : (0 : ℚ) < den := Nat.cast_pos.2 hden
  have hratio : (num / den : ℚ) * den = num := div_mul_cancel₀ _ hpos.ne'
  have hlowCast : 2 * (n * den : ℚ) ≤ 2 * num + den := by exact_mod_cast hlow
  have hhighCast : 2 * (num : ℚ) ≤ 2 * (n * den) + den := by exact_mod_cast hhigh
  constructor
  · rw [abs_le]
    constructor
    · have hle : (n : ℚ) - 1 / 2 ≤ num / den := (le_div_iff₀ hpos).2 (by linarith)
      linarith
    · have hle : (num / den : ℚ) ≤ n + 1 / 2 := (div_le_iff₀ hpos).2 (by linarith)
      linarith
  · intro hhalf
    apply htie
    rcases (abs_eq (by norm_num)).1 hhalf with hup | hdown
    · right
      have hquotient : (num / den : ℚ) = n + 1 / 2 := by linarith
      have hnum : (num : ℚ) = (n + 1 / 2) * den := by rw [← hquotient, hratio]
      exact_mod_cast (by linarith : 2 * (num : ℚ) = 2 * (n * den) + den)
    · left
      have hquotient : (num / den : ℚ) = n - 1 / 2 := by linarith
      have hnum : (num : ℚ) = (n - 1 / 2) * den := by rw [← hquotient, hratio]
      exact_mod_cast (by linarith : 2 * (n * den : ℚ) = 2 * num + den)

/-- A rounded quotient rounds the ratio. -/
theorem rounds_roundDiv (hden : 0 < den) : Rounds (num / den) (roundDiv num den) := by
  have hsplit := Nat.div_add_mod num den
  have hrest := Nat.mod_lt num hden
  have hsucc : (num / den + 1) * den = den * (num / den) + den := by
    rw [Nat.add_mul, Nat.one_mul, Nat.mul_comm]
  have hcomm : num / den * den = den * (num / den) := Nat.mul_comm _ _
  unfold roundDiv
  dsimp only
  split
  · next hup => exact rounds_of_twice hden (by omega) (by omega) (by omega)
  · next hdown => exact rounds_of_twice hden (by omega) (by omega) (by omega)

/-- The distances of a rational number to two different integers are together at least one. -/
theorem one_le_distances (q : ℚ) {k : ℤ} (h : k ≠ n) : 1 ≤ |q - n| + |q - k| := by
  have hint : 1 ≤ |(n : ℤ) - k| := Int.one_le_abs (sub_ne_zero.2 h.symm)
  calc (1 : ℚ) ≤ |(n : ℚ) - k| := by exact_mod_cast hint
    _ ≤ |(n : ℚ) - q| + |q - k| := abs_sub_le _ _ _
    _ = |q - n| + |q - k| := by rw [abs_sub_comm (n : ℚ) q]

/-- No integer is nearer to the rational number than the one that rounds it. -/
theorem Rounds.le_abs (h : Rounds q n) (k : ℤ) : |q - n| ≤ |q - k| := by
  by_cases hk : k = n
  · rw [hk, Int.cast_natCast]
  · have hapart := one_le_distances q hk
    linarith [h.near]

/-- An integer that rounds a rational number is even if another one is as near to it. -/
theorem Rounds.even_of_tie (h : Rounds q n) {k : ℤ} (hk : k ≠ n) (htie : |q - n| = |q - k|) :
    n % 2 = 0 := by
  have hapart := one_le_distances q hk
  exact h.even (by linarith [h.near])

/-- What rounds a number that is at most a natural number is at most that one. -/
theorem Rounds.le_of_le (h : Rounds q n) (hq : q ≤ m) : n ≤ m := by
  have hnear := (abs_le.1 h.near).1
  have hlt : (n : ℚ) < m + 1 := by linarith
  exact Nat.le_of_lt_succ (by exact_mod_cast hlt)

/-- What rounds a number that is at least a natural number is at least that one. -/
theorem Rounds.ge_of_ge (h : Rounds q n) (hq : m ≤ q) : m ≤ n := by
  have hnear := (abs_le.1 h.near).2
  have hlt : (m : ℚ) < n + 1 := by linarith
  exact Nat.le_of_lt_succ (by exact_mod_cast hlt)

/-- What rounds a number is below an even number if the number is more than a half below it. -/
theorem Rounds.lt_iff_of_even (h : Rounds q n) (hm : m % 2 = 0) : n < m ↔ q < m - 1 / 2 := by
  obtain ⟨hlow, hhigh⟩ := abs_le.1 h.near
  constructor
  · intro hlt
    have hsucc : (n : ℚ) + 1 ≤ m := by exact_mod_cast hlt
    apply lt_of_le_of_ne (by linarith)
    -- half way the odd neighbour of the even number would be rounded to
    intro hhalf
    have hnext : (m : ℚ) = n + 1 := by linarith
    have hodd : m = n + 1 := by exact_mod_cast hnext
    have hdistance : q - n = 1 / 2 := by linarith
    have heven := h.even (by rw [hdistance, abs_of_pos one_half_pos])
    omega
  · intro hlt
    have hbelow : (n : ℚ) < m := by linarith
    exact_mod_cast hbelow

/-- A power of two with a natural exponent is one with an integer exponent. -/
theorem two_pow_toNat {p : ℤ} (h : 0 ≤ p) : ((Nat.pow 2 p.toNat : ℕ) : ℚ) = 2 ^ p := by
  rw [Nat.pow_eq, Nat.cast_pow, Nat.cast_ofNat, ← zpow_natCast, Int.toNat_of_nonneg h]

/-- A power of two some places above a unit counts so many units. -/
theorem two_zpow_add_natCast (unit : ℤ) (places : ℕ) :
    (2 : ℚ) ^ (unit + places) = ((2 ^ places : ℕ) : ℚ) * 2 ^ unit := by
  rw [zpow_add₀ two_ne_zero, zpow_natCast, mul_comm, Nat.cast_pow, Nat.cast_ofNat]

/-- The quotient that is rounded in units of a power of two rounds the ratio in these units. -/
theorem rounds_scaled (hden : 0 < den) (unit : ℤ) :
    Rounds (num / den / 2 ^ unit)
      (if 0 ≤ unit then roundDiv num (den * Nat.pow 2 unit.toNat)
        else roundDiv (num * Nat.pow 2 (-unit).toNat) den) := by
  have htwo : ∀ k, 0 < Nat.pow 2 k := fun k => Nat.two_pow_pos k
  split
  · next hunit =>
      have hrounds : Rounds _ (roundDiv num (den * Nat.pow 2 unit.toNat)) :=
        rounds_roundDiv (Nat.mul_pos hden (htwo _))
      rwa [Nat.cast_mul, two_pow_toNat hunit, ← div_div] at hrounds
  · next hunit =>
      have hrounds : Rounds _ (roundDiv (num * Nat.pow 2 (-unit).toNat) den) :=
        rounds_roundDiv hden
      rwa [Nat.cast_mul, two_pow_toNat (by omega), zpow_neg, mul_comm, mul_div_assoc,
        inv_mul_eq_div] at hrounds

/-- The test for powers compares the power with the ratio. -/
theorem powerAtMost_iff (hden : 0 < den) (p : ℤ) :
    powerAtMost 2 p num den ↔ (2 : ℚ) ^ p ≤ num / den := by
  have hpos : (0 : ℚ) < den := Nat.cast_pos.2 hden
  unfold powerAtMost
  split
  · next hp =>
      rw [decide_eq_true_iff, le_div_iff₀ hpos, ← two_pow_toNat hp, mul_comm]
      exact_mod_cast Iff.rfl
  · next hp =>
      have htwo : (0 : ℚ) < 2 ^ (-p) := by positivity
      have hneg : (2 : ℚ) ^ p = 1 / 2 ^ (-p) := by rw [zpow_neg, one_div, inv_inv]
      rw [decide_eq_true_iff, hneg, div_le_div_iff₀ htwo hpos, one_mul,
        ← two_pow_toNat (by omega)]
      exact_mod_cast Iff.rfl

/-- A positive number lies between two powers of two next to each other. -/
theorem log2_bounds (hn : 0 < n) :
    (2 : ℚ) ^ (n.log2 : ℤ) ≤ n ∧ (n : ℚ) < 2 ^ ((n.log2 : ℤ) + 1) := by
  constructor
  · rw [zpow_natCast]
    exact_mod_cast Nat.log2_self_le hn.ne'
  · have hlt : (n : ℚ) < 2 ^ (n.log2 + 1) := by exact_mod_cast Nat.lt_log2_self (n := n)
    rwa [← zpow_natCast, Nat.cast_add, Nat.cast_one] at hlt

/-- The powers of two below two numbers tell the one below their ratio, or the next one. -/
theorem ratio_bounds (hnum : 0 < num) (hden : 0 < den) :
    (2 : ℚ) ^ ((num.log2 : ℤ) - den.log2 - 1) ≤ num / den ∧
      (num / den : ℚ) < 2 ^ ((num.log2 : ℤ) - den.log2 + 1) := by
  have hpos : (0 : ℚ) < den := Nat.cast_pos.2 hden
  obtain ⟨hnumLow, hnumHigh⟩ := log2_bounds hnum
  obtain ⟨hdenLow, hdenHigh⟩ := log2_bounds hden
  constructor
  · rw [le_div_iff₀ hpos]
    calc (2 : ℚ) ^ ((num.log2 : ℤ) - den.log2 - 1) * den
        ≤ 2 ^ ((num.log2 : ℤ) - den.log2 - 1) * 2 ^ ((den.log2 : ℤ) + 1) := by gcongr
      _ = 2 ^ (num.log2 : ℤ) := by
          rw [← zpow_add₀ two_ne_zero]
          congr 1
          omega
      _ ≤ num := hnumLow
  · rw [div_lt_iff₀ hpos]
    calc (num : ℚ) < 2 ^ ((num.log2 : ℤ) + 1) := hnumHigh
      _ = 2 ^ ((num.log2 : ℤ) - den.log2 + 1) * 2 ^ (den.log2 : ℤ) := by
          rw [← zpow_add₀ two_ne_zero]
          congr 1
          omega
      _ ≤ 2 ^ ((num.log2 : ℤ) - den.log2 + 1) * den := by gcongr

/-- A positive ratio lies between two powers of two next to each other, of which the lower one is
found. -/
theorem floorLog2_spec (hnum : 0 < num) (hden : 0 < den) :
    (2 : ℚ) ^ floorLog2 num den ≤ num / den ∧ (num / den : ℚ) < 2 ^ (floorLog2 num den + 1) := by
  obtain ⟨hlow, hhigh⟩ := ratio_bounds hnum hden
  unfold floorLog2
  dsimp only
  split
  · next hguess => exact ⟨(powerAtMost_iff hden _).1 hguess, hhigh⟩
  · next hguess =>
      rw [powerAtMost_iff hden, not_le] at hguess
      rw [Int.sub_add_cancel]
      exact ⟨hlow, hguess⟩

end Binary64

end TextCursor
