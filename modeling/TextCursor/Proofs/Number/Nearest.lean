import TextCursor.Proofs.Number.BitPattern

/-!
# The nearest binary64 number

A ratio is counted in units of the last place, and the count is rounded (`Binary64.Counts`). No
number with a significand of 53 bits is nearer to the ratio than the rounded count: it is a multiple
of the unit, or it lies below the power of two that is below the ratio
(`Binary64.Counts.grid_or_below`). The magnitude that is made of the unit and the count is finite
exactly below the bound at which rounding goes past the largest finite number
(`Binary64.Counts.finite_iff`). Together with the sign, `BitPattern.rounded_ofRatio` says what the
bit pattern of a rounded ratio is.
-/

namespace TextCursor

namespace Binary64

/-- The ratio has been counted in units of a power of two, no smaller than the least one. The count
has been rounded; it has 53 bits, or is the next power of two, and it has fewer bits for the least
unit only. -/
structure Counts (r : ℚ) (unit : ℤ) (n : ℕ) : Prop where
  least : -1074 ≤ unit
  rounds : Rounds (r / 2 ^ unit) n
  count_le : n ≤ 2 ^ 53
  below : r < 2 ^ (unit + 53)
  normal : unit = -1074 ∨ (2 ^ 52 ≤ n ∧ (2 : ℚ) ^ (unit + 52) ≤ r)

variable {r : ℚ} {n num den : ℕ} {unit : ℤ}

/-- A ratio between two powers of two is counted in the unit that is 52 places below the lower one,
or in the least one. -/
theorem counts_of_bounds {e : ℤ} (hlow : (2 : ℚ) ^ e ≤ r) (hhigh : r < 2 ^ (e + 1))
    (hrounds : Rounds (r / 2 ^ (max e (-1022) - 52)) n) :
    Counts r (max e (-1022) - 52) n := by
  generalize hunit : max e (-1022) - 52 = unit at hrounds
  have hpos : (0 : ℚ) < 2 ^ unit := by positivity
  have hbelow : r < 2 ^ (unit + (53 : ℕ)) :=
    hhigh.trans_le (zpow_le_zpow_right₀ one_le_two (by omega))
  refine ⟨by omega, hrounds, hrounds.le_of_le ?_, hbelow, ?_⟩
  · rw [two_zpow_add_natCast] at hbelow
    exact ((div_lt_iff₀ hpos).2 hbelow).le
  · rcases lt_or_ge e (-1022) with hsubnormal | hnormal
    · exact .inl (by omega)
    · have habove : (2 : ℚ) ^ (unit + (52 : ℕ)) ≤ r := by
        rw [show unit + (52 : ℕ) = e by omega]
        exact hlow
      refine .inr ⟨hrounds.ge_of_ge ?_, habove⟩
      rw [two_zpow_add_natCast] at habove
      exact (le_div_iff₀ hpos).2 habove

/-- Zero is counted in the least unit. -/
theorem counts_zero : Counts 0 (-1074) 0 where
  least := le_refl _
  rounds := ⟨by norm_num, by norm_num⟩
  count_le := Nat.zero_le _
  below := by positivity
  normal := .inl rfl

/-- The magnitude of a ratio is put together from its unit and its count. -/
theorem exists_counts (num : ℕ) (hden : 0 < den) :
    ∃ unit n, Counts (num / den) unit n ∧ magnitudeOfRatio num den =
      min ((unit + 1074).toNat * 2 ^ 52 + n) infinityMagnitude := by
  unfold magnitudeOfRatio
  split
  · next hzero =>
      refine ⟨-1074, 0, ?_, rfl⟩
      rw [hzero, Nat.cast_zero, zero_div]
      exact counts_zero
  · next hnum =>
      obtain ⟨hlow, hhigh⟩ := floorLog2_spec (Nat.pos_of_ne_zero hnum) hden
      exact ⟨_, _, counts_of_bounds hlow hhigh (rounds_scaled hden _), rfl⟩

/-- A distance, measured in units. -/
theorem abs_sub_mul_two_zpow (r k : ℚ) (unit : ℤ) :
    |r - k * 2 ^ unit| = |r / 2 ^ unit - k| * 2 ^ unit := by
  have hpos : (0 : ℚ) < 2 ^ unit := by positivity
  rw [← abs_of_pos hpos, ← abs_mul, abs_of_pos hpos, sub_mul, div_mul_cancel₀ _ hpos.ne']

/-- No multiple of the unit is nearer than the count. -/
theorem Counts.le_abs (h : Counts r unit n) (k : ℤ) :
    |r - n * 2 ^ unit| ≤ |r - k * 2 ^ unit| := by
  rw [abs_sub_mul_two_zpow, abs_sub_mul_two_zpow r k]
  exact mul_le_mul_of_nonneg_right (h.rounds.le_abs k) (by positivity)

/-- A number with a significand of 53 bits is a multiple of the unit, or it is farther away than the
count. -/
theorem Counts.grid_or_below (h : Counts r unit n) {c : ℕ} {v : ℤ} (hc : c < 2 ^ 53)
    (hv : -1074 ≤ v) :
    (∃ k : ℤ, (c * 2 ^ v : ℚ) = k * 2 ^ unit) ∨ |r - n * 2 ^ unit| < |r - c * 2 ^ v| := by
  rcases lt_or_ge v unit with hsmaller | hlarger
  · -- it is below the power of two 52 places above the unit, which the ratio is not
    right
    have habove := (h.normal.resolve_left (by omega)).2
    have hbelow : (c * 2 ^ v : ℚ) < 2 ^ (unit + 52) := by
      calc (c * 2 ^ v : ℚ) < 2 ^ 53 * 2 ^ v := by
            gcongr
            exact_mod_cast hc
        _ = 2 ^ (v + (53 : ℕ)) := by rw [two_zpow_add_natCast, Nat.cast_pow, Nat.cast_ofNat]
        _ ≤ 2 ^ (unit + 52) := zpow_le_zpow_right₀ one_le_two (by omega)
    have hpower : (2 : ℚ) ^ (unit + 52) = ((2 ^ 52 : ℤ) : ℚ) * 2 ^ unit := by
      rw [zpow_add₀ two_ne_zero, mul_comm]
      rfl
    have hnearest := h.le_abs (2 ^ 52)
    rw [← hpower, abs_of_nonneg (sub_nonneg.2 habove)] at hnearest
    rw [abs_of_pos (sub_pos.2 (hbelow.trans_le habove))]
    linarith
  · left
    refine ⟨c * 2 ^ (v - unit).toNat, ?_⟩
    have hpower : (2 : ℚ) ^ v = 2 ^ (v - unit).toNat * 2 ^ unit := by
      rw [← zpow_natCast, ← zpow_add₀ two_ne_zero]
      congr 1
      omega
    rw [hpower]
    push_cast
    ring

/-- No number with a significand of 53 bits is nearer than the count. -/
theorem Counts.nearest (h : Counts r unit n) {c : ℕ} {v : ℤ} (hc : c < 2 ^ 53)
    (hv : -1074 ≤ v) : |r - n * 2 ^ unit| ≤ |r - c * 2 ^ v| := by
  rcases h.grid_or_below hc hv with ⟨k, hk⟩ | hfarther
  · rw [hk]
    exact h.le_abs k
  · exact hfarther.le

/-- The count is even if another number with a significand of 53 bits is as near. -/
theorem Counts.even_of_tie (h : Counts r unit n) {c : ℕ} {v : ℤ} (hc : c < 2 ^ 53)
    (hv : -1074 ≤ v) (htie : |r - n * 2 ^ unit| = |r - c * 2 ^ v|)
    (hne : (c * 2 ^ v : ℚ) ≠ n * 2 ^ unit) : n % 2 = 0 := by
  rcases h.grid_or_below hc hv with ⟨k, hk⟩ | hfarther
  · have hpos : (0 : ℚ) < 2 ^ unit := by positivity
    rw [hk, abs_sub_mul_two_zpow, abs_sub_mul_two_zpow r k] at htie
    rw [hk] at hne
    apply h.rounds.even_of_tie _ (mul_right_cancel₀ hpos.ne' htie)
    rintro rfl
    exact hne (by rw [Int.cast_natCast])
  · exact absurd htie hfarther.ne

/-- Half a unit above the largest finite number: the bound from which on numbers are rounded to
infinity. -/
def overflowBound : ℚ :=
  (2 - 1 / 2 ^ 53) * 2 ^ 1023

/-- The bound, in units of the largest binade. -/
theorem overflowBound_eq : overflowBound = (2 ^ 53 - 1 / 2) * 2 ^ (971 : ℤ) := by
  have hpower : (2 : ℚ) ^ 1023 = 2 ^ 52 * 2 ^ (971 : ℤ) := by
    rw [← zpow_natCast, ← zpow_natCast, ← zpow_add₀ two_ne_zero]
    rfl
  unfold overflowBound
  rw [hpower]
  ring

/-- The bound lies between the last two powers of two. -/
theorem overflowBound_bounds :
    (2 : ℚ) ^ (1023 : ℤ) ≤ overflowBound ∧ overflowBound ≤ 2 ^ (1024 : ℤ) := by
  have hpos : (0 : ℚ) < 2 ^ (971 : ℤ) := by positivity
  have hlow : (2 : ℚ) ^ (1023 : ℤ) = 2 ^ 52 * 2 ^ (971 : ℤ) := by
    rw [← zpow_natCast, ← zpow_add₀ two_ne_zero]
    rfl
  have hhigh : (2 : ℚ) ^ (1024 : ℤ) = 2 ^ 53 * 2 ^ (971 : ℤ) := by
    rw [← zpow_natCast, ← zpow_add₀ two_ne_zero]
    rfl
  rw [overflowBound_eq, hlow, hhigh]
  constructor
  · exact mul_le_mul_of_nonneg_right (by norm_num) hpos.le
  · exact mul_le_mul_of_nonneg_right (by norm_num) hpos.le

/-- The magnitude that is put together from a unit and a count is finite if the ratio is below the
bound. -/
theorem Counts.finite_iff (h : Counts r unit n) :
    (unit + 1074).toNat * 2 ^ 52 + n < 2047 * 2 ^ 52 ↔ r < overflowBound := by
  have hcount := h.count_le
  have hleast := h.least
  obtain ⟨hlow, hhigh⟩ := overflowBound_bounds
  rcases lt_trichotomy unit 971 with hsmall | rfl | hlarge
  · have hbelow : (2 : ℚ) ^ (unit + 53) ≤ 2 ^ (1023 : ℤ) :=
      zpow_le_zpow_right₀ one_le_two (by omega)
    exact iff_of_true (by omega) (h.below.trans_le (hbelow.trans hlow))
  · -- in the largest binade, the count may be rounded to the next power of two, which is even
    have hpos : (0 : ℚ) < 2 ^ (971 : ℤ) := by positivity
    have hcarry := h.rounds.lt_iff_of_even (rfl : 2 ^ 53 % 2 = 0)
    rw [div_lt_iff₀ hpos, Nat.cast_pow, Nat.cast_ofNat, ← overflowBound_eq] at hcarry
    rw [← hcarry]
    omega
  · obtain ⟨hhidden, habove⟩ := h.normal.resolve_left (by omega)
    have hpower : (2 : ℚ) ^ (1024 : ℤ) ≤ 2 ^ (unit + 52) :=
      zpow_le_zpow_right₀ one_le_two (by omega)
    exact iff_of_false (by omega) (not_lt.2 (hhigh.trans (hpower.trans habove)))

end Binary64

namespace BitPattern

open Binary64

variable {r : ℚ} {m num den : ℕ}

/-- The magnitude is finite, no absolute value of a pattern is nearer to the ratio, and the
significand is even if another absolute value is as near. -/
structure IsNearestMagnitude (r : ℚ) (m : ℕ) : Prop where
  finite : m < 2047 * 2 ^ 52
  nearest : ∀ other, |r - unsignedValue m| ≤ |r - unsignedValue other|
  even : ∀ other, |r - unsignedValue m| = |r - unsignedValue other| →
    unsignedValue other ≠ unsignedValue m → significand m % 2 = 0

/-- The pattern stands for a number that no other one is nearer to, and its significand is even if
another one is as near. -/
structure IsNearest (r : ℚ) (bits : ℕ) : Prop where
  finite : IsFinite bits
  nearest : ∀ other, IsFinite other → |r - value bits| ≤ |r - value other|
  even : ∀ other, IsFinite other → |r - value bits| = |r - value other| →
    value other ≠ value bits → significand bits % 2 = 0

/-- The pattern that a number is rounded to: its sign bit is as given, and it stands for infinity
from the bound on at which rounding goes past the largest finite number, and else for the number
that is nearest. -/
structure RoundsTo (negative : Bool) (r : ℚ) (bits : ℕ) : Prop where
  width : bits < 2 ^ 64
  sign : signBit bits = 1 ↔ negative
  infinite : IsInfinite bits ↔ overflowBound ≤ |r|
  nearest : |r| < overflowBound → IsNearest r bits

/-- Below the bound, the magnitude of a ratio is nearest to it. -/
theorem nearest_magnitudeOfRatio (hden : 0 < den) (h : (num / den : ℚ) < overflowBound) :
    IsNearestMagnitude (num / den) (magnitudeOfRatio num den) := by
  obtain ⟨unit, n, hcounts, hmagnitude⟩ := exists_counts num hden
  have hfinite := hcounts.finite_iff.2 h
  have hleast := hcounts.least
  have hhidden : (unit + 1074).toNat = 0 ∨ 2 ^ 52 ≤ n := by
    rcases hcounts.normal with rfl | ⟨hlarge, -⟩
    · exact .inl rfl
    · exact .inr hlarge
  obtain ⟨hvalue, hparity⟩ := unsignedValue_compose hcounts.count_le hhidden hfinite
  rw [show (((unit + 1074).toNat : ℤ) - 1074) = unit by omega] at hvalue
  replace hmagnitude := hmagnitude.trans (Nat.min_eq_left hfinite.le)
  rw [← hmagnitude] at hfinite hvalue hparity
  have hexponent : ∀ other, -1074 ≤ ((max (exponentField other) 1 : ℕ) - 1075 : ℤ) := by
    intro other
    omega
  refine ⟨hfinite, ?_, ?_⟩
  · intro other
    rw [hvalue]
    exact hcounts.nearest (significand_lt other) (hexponent other)
  · intro other htie hne
    rw [hvalue] at htie hne
    rw [hparity]
    exact hcounts.even_of_tie (significand_lt other) (hexponent other) htie hne

/-- From the bound on, the magnitude of a ratio is that of infinity. -/
theorem magnitudeOfRatio_eq_infinity (hden : 0 < den) (h : overflowBound ≤ (num / den : ℚ)) :
    magnitudeOfRatio num den = infinityMagnitude := by
  obtain ⟨unit, n, hcounts, hmagnitude⟩ := exists_counts num hden
  have hinfinite := not_lt.1 (mt hcounts.finite_iff.1 (not_lt.2 h))
  rw [hmagnitude]
  exact Nat.min_eq_right hinfinite

/-- The magnitude of a ratio leaves the sign bit alone. -/
theorem magnitudeOfRatio_lt (num : ℕ) (hden : 0 < den) :
    magnitudeOfRatio num den < 2 ^ 63 := by
  obtain ⟨unit, n, -, hmagnitude⟩ := exists_counts num hden
  rw [hmagnitude]
  exact (Nat.min_le_right _ _).trans_lt (by decide)

/-- A pattern with a sign is nearest to a number of this sign if its magnitude is nearest to the
absolute value. -/
theorem IsNearestMagnitude.isNearest {x : Binary64} (h : IsNearestMagnitude r x.magnitude)
    (hr : 0 ≤ r) : IsNearest (if x.negative then -r else r) x.bits := by
  have hfinite := h.finite
  obtain ⟨hwidth, -, hexponent, -⟩ := fields_bits (x := x) (by omega)
  obtain ⟨hsignificand, hunsigned, hvalue⟩ := value_bits (x := x) (by omega)
  generalize hsigned : (if x.negative then -r else r) = signed
  have habs : |signed| = r := hsigned ▸ abs_signed _ hr
  have hsame : |signed - value x.bits| = |r - unsignedValue x.magnitude| := by
    rw [← hsigned, hvalue]
    split
    · rw [neg_sub_neg, abs_sub_comm]
    · rfl
  -- changing a sign only takes numbers apart
  have hfarther : ∀ other, |r - unsignedValue other| ≤ |signed - value other| := by
    intro other
    have hle := abs_abs_sub_abs_le_abs_sub signed (value other)
    rwa [habs, abs_value] at hle
  refine ⟨⟨hwidth, ?_⟩, ?_, ?_⟩
  · rw [hexponent]
    unfold exponentField
    omega
  · intro other hother
    rw [hsame]
    exact (h.nearest other).trans (hfarther other)
  · intro other hother htie hne
    rw [hsame] at htie
    have heq : |r - unsignedValue x.magnitude| = |r - unsignedValue other| :=
      le_antisymm (h.nearest other) (htie ▸ hfarther other)
    rw [hsignificand]
    apply h.even other heq
    intro hequal
    -- the other number would be the opposite one, which is farther away unless both are zero
    have hopposite : value other = -value x.bits := by
      have habsEqual : |value other| = |value x.bits| := by
        rw [abs_value, abs_value, hequal, hunsigned]
      exact (abs_eq_abs.1 habsEqual).resolve_left hne
    have hsum : |signed - value other| = r + unsignedValue x.magnitude := by
      have hnonneg := unsignedValue_nonneg x.magnitude
      rw [hopposite, hvalue, ← hsigned]
      split
      · rw [neg_neg, ← neg_add', abs_neg, abs_of_nonneg (by linarith)]
      · rw [sub_neg_eq_add, abs_of_nonneg (by linarith)]
    have hzero : value x.bits = 0 := by
      have hnearest := h.nearest 0
      rw [htie, hsum, unsignedValue_zero, sub_zero, abs_of_nonneg hr] at hnearest
      rw [← abs_eq_zero, abs_value, hunsigned]
      exact le_antisymm (by linarith) (unsignedValue_nonneg _)
    exact hne (by rw [hopposite, hzero, neg_zero])

/-- The pattern of a rounded ratio with a sign is the one that the ratio with this sign is rounded
to. -/
theorem rounded_ofRatio (negative : Bool) (num : ℕ) (hden : 0 < den) :
    RoundsTo negative (if negative then -(num / den) else num / den)
      (ofRatio negative num den).bits := by
  have hnonneg : (0 : ℚ) ≤ num / den := by positivity
  have habs : |if negative then -(num / den : ℚ) else num / den| = num / den :=
    abs_signed _ hnonneg
  have hnearest : (num / den : ℚ) < overflowBound →
      IsNearest (if negative then -(num / den) else num / den)
        (ofRatio negative num den).bits := fun hbelow =>
    IsNearestMagnitude.isNearest (x := ofRatio negative num den)
      (nearest_magnitudeOfRatio hden hbelow) hnonneg
  obtain ⟨hwidth, hsign, hexponent, hfraction⟩ :=
    fields_bits (x := ofRatio negative num den) (magnitudeOfRatio_lt num hden)
  constructor
  · exact hwidth
  · rw [hsign]
    show (if negative then 1 else 0) = 1 ↔ negative
    cases negative <;> decide
  · rw [habs]
    rcases lt_or_ge (num / den : ℚ) overflowBound with hbelow | hbeyond
    · exact iff_of_false (hnearest hbelow).finite.not_isInfinite (not_le.2 hbelow)
    · have hmagnitude : (ofRatio negative num den).magnitude = infinityMagnitude :=
        magnitudeOfRatio_eq_infinity hden hbeyond
      rw [hmagnitude] at hexponent hfraction
      exact iff_of_true ⟨hwidth, hexponent, hfraction⟩ hbeyond
  · rw [habs]
    exact hnearest

end BitPattern

end TextCursor
