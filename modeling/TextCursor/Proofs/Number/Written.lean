import TextCursor.Proofs.Number.Scan

/-!
# Written integers

An integer may be written with a sign and with zeros in front of its digits, as long as there are
not more digits than the limit (`Numeral.Writes`, `Numeral.writes_padded`). However it is written,
it is scanned as a whole in front of what neither continues it nor clings to it
(`Numeral.IsNumeral.scan_append`), and read as the integer (`Numeral.Writes.read`).
-/

namespace TextCursor.Numeral

open Unicode

/-- The text is a sign or none and decimal digits, no more than the limit, and their value is the
integer. -/
structure Writes (numeral : Text) (n : Int) : Prop where
  isNumeral : IsNumeral .whole numeral
  limit : (digits numeral).length ≤ digitLimit
  value : wholeValue numeral = n

variable {numeral sign rest : Text} {n : Int}

/-- What writes an integer is read as that integer. -/
theorem Writes.read (h : Writes numeral n) : read .whole numeral = .ok (.int n) := by
  rw [Numeral.read, toInt?_eq h.isNumeral, if_neg (Nat.not_lt.2 h.limit), h.value]

/-- The numerals of integers are the signs with digits behind them. -/
theorem isNumeral_whole_iff : IsNumeral .whole numeral ↔
    ∃ sign body, numeral = sign ++ body ∧ IsSign sign ∧ AreDigits body ∧ body ≠ [] := by
  constructor
  · rintro ⟨sign, body, hnumeral, hsign, hbody⟩
    cases hbody with
    | digits _ hdigits hne => exact ⟨sign, body, hnumeral, hsign, hdigits, hne⟩
  · rintro ⟨sign, body, hnumeral, hsign, hdigits, hne⟩
    exact ⟨sign, body, hnumeral, hsign, .digits _ hdigits hne⟩

/-- A numeral is scanned as a whole where no digit follows and nothing clings to it. -/
theorem IsNumeral.scan_append {segmenter : Segmenter}
    (hsegmenter : segmenter = .graphemes ∨ segmenter = .codePoints)
    (h : IsNumeral .whole numeral) (hrest : Undigited rest) (hseam : Segmenter.Unclinging rest) :
    scan .whole (segmenter.clusters (numeral ++ rest)) = some numeral := by
  obtain ⟨sign, body, rfl, hsign, hdigits, hne⟩ := isNumeral_whole_iff.1 h
  rcases hsegmenter with rfl | rfl
  · exact scan_digits hsign hdigits hne hrest hseam
  · have hclusters : Segmenter.codePoints.clusters (sign ++ body ++ rest) =
        (sign ++ body).map ([·]) ++ Segmenter.codePoints.clusters rest := by
      rw [Segmenter.clusters_codePoints, Segmenter.clusters_codePoints, List.map_append]
    rw [hclusters, scan, accepted_sign_digits hsign hdigits hne (hrest.clusters _),
      Text.flatten_map_singleton, if_pos (isNumeral_iff.1 h).2]

/-- A decimal digit is not blank. -/
theorem isBlank_digit {c : Char} (h : c.isDigit) : isBlank c = false := by
  have hblank : ∀ i < 57 + 1 - 48, isBlank (Char.ofNat (48 + i)) = false := by decide
  obtain ⟨hfirst, hlast⟩ := Char.isDigit_iff_toNat.1 h
  exact BreakClass.of_range (isBlank · = false) hblank hfirst hlast

/-- A numeral begins with a sign or a digit, which is not blank and does not cling. -/
theorem IsNumeral.exists_cons (h : IsNumeral .whole numeral) :
    ∃ c later, numeral = c :: later ∧ isBlank c = false ∧
      (BreakClass.ofChar c).clings = false := by
  obtain ⟨sign, body, rfl, hsign, hdigits, hne⟩ := isNumeral_whole_iff.1 h
  rcases hsign with rfl | rfl | rfl
  · cases body with
    | nil => exact absurd rfl hne
    | cons c later =>
        have hc := hdigits c List.mem_cons_self
        refine ⟨c, later, rfl, isBlank_digit hc, ?_⟩
        rw [BreakClass.ofChar_digit hc]
        rfl
  · exact ⟨'+', body, rfl, by decide, by decide⟩
  · exact ⟨'-', body, rfl, by decide, by decide⟩

/-- Zeros in front of digits do not change their value. -/
theorem value_replicate_append (zeros : Nat) (digits : Text) :
    value (List.replicate zeros '0' ++ digits) = value digits := by
  induction zeros with
  | zero => rfl
  | succ zeros ih =>
      rw [List.replicate_succ, List.cons_append, ← ih]
      rfl

/-- The digits of a numeral are what stands behind its sign. -/
theorem digits_append {body : Text} (hsign : IsSign sign) (hbody : AreDigits body) :
    digits (sign ++ body) = body := by
  have hdigits : digits body = body := List.filter_eq_self.2 hbody
  rcases hsign with rfl | rfl | rfl
  · exact hdigits
  · exact hdigits
  · exact hdigits

/-- The value of digits behind a sign is negated by a minus. -/
theorem wholeValue_append {body : Text} (hsign : IsSign sign) (hbody : AreDigits body) :
    wholeValue (sign ++ body) = (if sign = ['-'] then -1 else 1) * (value body : Int) := by
  rw [wholeValue, digits_append hsign hbody, ← value_eq_ofDigits]
  rcases hsign with rfl | rfl | rfl
  · have hnegative := isNegative_digits hbody
    rw [isNegative, decide_eq_false_iff_not] at hnegative
    rw [List.nil_append, if_neg hnegative]
    rfl
  · rfl
  · rfl

/-- An integer may be written with any number of zeros in front of its digits, up to the limit, and
with a plus if it is not negative. -/
theorem writes_padded (hsign : sign = ['-'] ∧ n ≤ 0 ∨ (sign = [] ∨ sign = ['+']) ∧ 0 ≤ n)
    {zeros : Nat} (hlimit : zeros + (Text.ofNat n.natAbs).length ≤ digitLimit) :
    Writes (sign ++ (List.replicate zeros '0' ++ Text.ofNat n.natAbs)) n := by
  have hsigned : IsSign sign := by
    rcases hsign with ⟨rfl, -⟩ | ⟨rfl | rfl, -⟩ <;> simp [IsSign]
  have hbody : AreDigits (List.replicate zeros '0' ++ Text.ofNat n.natAbs) := by
    intro c hc
    rcases List.mem_append.1 hc with hzero | hdigit
    · rw [(List.mem_replicate.1 hzero).2]
      rfl
    · exact areDigits_ofNat _ c hdigit
  have hnumeral : IsNumeral .whole (sign ++ (List.replicate zeros '0' ++ Text.ofNat n.natAbs)) :=
    isNumeral_whole_iff.2 ⟨sign, _, rfl, hsigned, hbody,
      List.append_ne_nil_of_right_ne_nil _ (ofNat_ne_nil _)⟩
  refine ⟨hnumeral, ?_, ?_⟩
  · rwa [digits_append hsigned hbody, List.length_append, List.length_replicate]
  · rw [wholeValue_append hsigned hbody, value_replicate_append, value_ofNat]
    rcases hsign with ⟨rfl, hnonpos⟩ | ⟨rfl | rfl, hnonneg⟩
    · rw [Int.ofNat_natAbs_of_nonpos hnonpos, if_pos rfl, Int.neg_one_mul, Int.neg_neg]
    · rw [Int.natAbs_of_nonneg hnonneg, if_neg (by decide), Int.one_mul]
    · rw [Int.natAbs_of_nonneg hnonneg, if_neg (by decide), Int.one_mul]

end TextCursor.Numeral
