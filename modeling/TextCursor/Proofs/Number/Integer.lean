import TextCursor.Proofs.Segmentation.Seam
import TextCursor.View.Number

/-!
# Reading integers back

A sign and decimal digits are scanned as a whole when what stands behind them neither continues the
number nor clings to its last digit (`Numeral.scan_digits`), and reading the decimal text of an
integer gives that integer (`Numeral.read_ofInt`).
-/

namespace TextCursor

open Unicode

namespace NumberState

/-- A digit continues every integer. -/
theorem next_digit {kind : NumberKind} {state : NumberState} {c : Char} (hc : c.isDigit)
    (hstate : state ≠ .fraction) : state.next kind [c] = some .integer := by
  have hsign : ¬ (state = .start ∧ ([c] = ['+'] ∨ [c] = ['-'])) := by
    rintro ⟨-, hsign | hsign⟩ <;> cases hsign <;> cases hc
  have hdigit : Cluster.isDigit [c] := hc
  rw [next, if_neg hsign, if_pos hdigit, if_neg hstate]

/-- Only a digit continues an integer that has one. -/
theorem next_integer_eq_none {cluster : Text} (h : Cluster.isDigit cluster = false) :
    integer.next .whole cluster = none := by
  simp [next, h]

end NumberState

namespace Numeral

/-- What may stand in front of the digits of a numeral: one sign or nothing. -/
def IsSign (sign : Text) : Prop :=
  sign = [] ∨ sign = ['+'] ∨ sign = ['-']

/-- Every character of the text is a decimal digit. -/
def AreDigits (text : Text) : Prop :=
  ∀ c ∈ text, c.isDigit

/-- The first character of the text, if any, is no decimal digit. -/
def Undigited (text : Text) : Prop :=
  ∀ c ∈ text.head?, c.isDigit = false

/-- Whether a text begins with a digit is decided on its first character. -/
instance (text : Text) : Decidable (Undigited text) :=
  Option.decidableForallMem text.head?

variable {sign digits rest : Text}

/-- The first cluster of a text that begins with no digit is none. -/
theorem Undigited.clusters (h : Undigited rest) (segmenter : Segmenter) :
    ∀ cluster ∈ (segmenter.clusters rest).head?, Cluster.isDigit cluster = false := by
  cases rest with
  | nil => simp [Segmenter.clusters, ClusterRule.clusters]
  | cons c later =>
      intro cluster hcluster
      cases hcluster
      cases (segmenter.rule.cutAfter (segmenter.rule.first c) later).1 with
      | nil => exact h c rfl
      | cons d more => rfl

/-- Behind a first digit, all further ones are accepted, up to a cluster that is no digit. -/
theorem accepted_digits (hdigits : AreDigits digits) {others : List Text}
    (hothers : ∀ cluster ∈ others.head?, Cluster.isDigit cluster = false) :
    accepted .whole .integer (digits.map ([·]) ++ others) = digits.map ([·]) := by
  induction digits with
  | nil =>
      cases others with
      | nil => rfl
      | cons cluster later =>
          simp [accepted, NumberState.next_integer_eq_none (hothers cluster rfl)]
  | cons c later ih =>
      obtain ⟨hc, hlater⟩ := List.forall_mem_cons.1 hdigits
      simp [accepted, NumberState.next_digit hc, ih hlater]

/-- A sign and digits are accepted up to a cluster that is no digit. -/
theorem accepted_sign_digits (hsign : IsSign sign) (hdigits : AreDigits digits) (hne : digits ≠ [])
    {others : List Text} (hothers : ∀ cluster ∈ others.head?, Cluster.isDigit cluster = false) :
    accepted .whole .start ((sign ++ digits).map ([·]) ++ others) = (sign ++ digits).map ([·]) := by
  cases digits with
  | nil => exact absurd rfl hne
  | cons c later =>
      obtain ⟨hc, hlater⟩ := List.forall_mem_cons.1 hdigits
      -- whatever the sign, the first digit leads to the state in which digits are accepted
      have hrest := accepted_digits hlater hothers
      rcases hsign with rfl | rfl | rfl
      · simp [accepted, NumberState.next_digit hc, hrest]
      · have hplus : NumberState.start.next .whole ['+'] = some .sign := rfl
        simp [accepted, hplus, NumberState.next_digit hc, hrest]
      · have hminus : NumberState.start.next .whole ['-'] = some .sign := rfl
        simp [accepted, hminus, NumberState.next_digit hc, hrest]

/-- A sign and digits are the numeral in front of a text whose first character is no digit and does
not cling to the last one. -/
theorem scan_digits (hsign : IsSign sign) (hdigits : AreDigits digits) (hne : digits ≠ [])
    (hrest : Undigited rest) (hseam : Segmenter.Unclinging rest) :
    scan .whole (Segmenter.graphemes.clusters (sign ++ digits ++ rest)) =
      some (sign ++ digits) := by
  have hplain : ∀ c ∈ sign ++ digits, BreakClass.ofChar c = .other := by
    intro c hc
    rcases List.mem_append.1 hc with hfront | hback
    · rcases hsign with rfl | rfl | rfl
      · cases hfront
      · rw [List.mem_singleton.1 hfront]
        decide
      · rw [List.mem_singleton.1 hfront]
        decide
    · exact BreakClass.ofChar_digit (hdigits c hback)
  have hany : (sign ++ digits).any Char.isDigit := by
    obtain ⟨c, hc⟩ := List.exists_mem_of_ne_nil digits hne
    exact List.any_eq_true.2 ⟨c, List.mem_append_right _ hc, hdigits c hc⟩
  rw [Segmenter.clusters_plain_append hplain hseam, scan,
    accepted_sign_digits hsign hdigits hne (hrest.clusters _), Text.flatten_map_singleton,
    if_pos hany]

/-- The decimal text of a natural number has digits only. -/
theorem areDigits_ofNat (n : Nat) : AreDigits (Text.ofNat n) :=
  fun _ hc => Nat.isDigit_of_mem_toDigits (by decide) (by decide) hc

/-- The decimal text of a natural number has a digit. -/
theorem ofNat_ne_nil (n : Nat) : Text.ofNat n ≠ [] := by
  rw [Text.ofNat, Nat.toDigits_eq_if (by decide)]
  split <;> simp

/-- The digits of a natural number spell it. -/
theorem value_ofNat (n : Nat) : value (Text.ofNat n) = n := by
  rw [value, ← Nat.ofDigitChars_eq_foldl]
  exact Nat.ofDigitChars_ten_toDigits

/-- A text that begins with another character than a digit begins with no digit. -/
theorem undigited_of_head? {c : Char} (h : rest.head? = some c) (hc : c.isDigit = false) :
    Undigited rest := by
  intro d hd
  cases h.symm.trans hd
  exact hc

/-- The digits at the front of a text are those of a number that ends there. -/
theorem takeWhile_ofNat_append (n : Nat) (hrest : Undigited rest) :
    (Text.ofNat n ++ rest).takeWhile Char.isDigit = Text.ofNat n := by
  have hnone : rest.takeWhile Char.isDigit = [] := by
    cases rest with
    | nil => rfl
    | cons c later => exact List.takeWhile_cons_of_neg (by simp [hrest c rfl])
  rw [List.takeWhile_append_of_pos (areDigits_ofNat n), hnone, List.append_nil]

/-- A number can be cancelled from the front of a text if it ends there. -/
theorem ofNat_append_inj {n m : Nat} {other : Text} (hrest : Undigited rest)
    (hother : Undigited other) (h : Text.ofNat n ++ rest = Text.ofNat m ++ other) :
    n = m ∧ rest = other := by
  have hdigits : Text.ofNat n = Text.ofNat m := by
    rw [← takeWhile_ofNat_append n hrest, h, takeWhile_ofNat_append m hother]
  constructor
  · rw [← value_ofNat n, hdigits, value_ofNat]
  · rw [hdigits] at h
    exact List.append_cancel_left h

/-- The decimal text of an integer is the minus sign of a negative one and the digits of its
magnitude. -/
theorem ofInt_eq (n : Int) :
    Text.ofInt n = (if n < 0 then ['-'] else []) ++ Text.ofNat n.natAbs := by
  cases n with
  | ofNat n => rfl
  | negSucc n =>
      rw [if_pos (Int.negSucc_lt_zero n)]
      rfl

/-- A numeral of digits alone has no sign to leave out. -/
theorem unsigned_digits (hdigits : AreDigits digits) : unsigned digits = digits := by
  cases digits with
  | nil => rfl
  | cons c later =>
      have hc : ¬ (c = '+' ∨ c = '-') := by
        have hdigit := hdigits c List.mem_cons_self
        rintro (rfl | rfl) <;> cases hdigit
      rw [unsigned, if_neg hc]

/-- A numeral of digits alone is not negative. -/
theorem isNegative_digits (hdigits : AreDigits digits) : isNegative digits = false := by
  cases digits with
  | nil => rfl
  | cons c later =>
      have hc : c ≠ '-' := by
        have hdigit := hdigits c List.mem_cons_self
        intro hminus
        subst hminus
        cases hdigit
      simpa [isNegative] using hc

/-- The value of the decimal text of an integer is that integer, unless there are too many
digits. -/
theorem toInt?_ofInt {n : Int} (h : (Text.ofNat n.natAbs).length ≤ digitLimit) :
    toInt? (Text.ofInt n) = some n := by
  have hdigits := areDigits_ofNat n.natAbs
  have hlimit : ¬ digitLimit < (Text.ofNat n.natAbs).length := Nat.not_lt.2 h
  by_cases hneg : n < 0
  · have hunsigned : unsigned ('-' :: Text.ofNat n.natAbs) = Text.ofNat n.natAbs := rfl
    have hnegative : isNegative ('-' :: Text.ofNat n.natAbs) = true := rfl
    rw [ofInt_eq, if_pos hneg, List.singleton_append, toInt?, hunsigned, hnegative]
    simp only [hlimit, if_false, if_true, value_ofNat, Option.some.injEq]
    omega
  · rw [ofInt_eq, if_neg hneg, List.nil_append, toInt?, unsigned_digits hdigits,
      isNegative_digits hdigits]
    simp only [hlimit, if_false, Bool.false_eq_true, value_ofNat, Option.some.injEq]
    omega

/-- Reading the decimal text of an integer gives that integer, unless there are too many digits. -/
theorem read_ofInt {n : Int} (h : (Text.ofNat n.natAbs).length ≤ digitLimit) :
    read .whole (Text.ofInt n) = .ok (.int n) := by
  rw [read, toInt?_ofInt h]

/-- The decimal text of an integer is the numeral in front of a text whose first character is no
digit and does not cling to the last one. -/
theorem scan_ofInt (n : Int) (hrest : Undigited rest) (hseam : Segmenter.Unclinging rest) :
    scan .whole (Segmenter.graphemes.clusters (Text.ofInt n ++ rest)) = some (Text.ofInt n) := by
  have hsign : IsSign (if n < 0 then ['-'] else []) := by
    by_cases hneg : n < 0 <;> simp [IsSign, hneg]
  rw [ofInt_eq]
  exact scan_digits hsign (areDigits_ofNat _) (ofNat_ne_nil _) hrest hseam

end Numeral

end TextCursor
