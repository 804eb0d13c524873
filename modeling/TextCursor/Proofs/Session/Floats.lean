import TextCursor.Proofs.Number.Decimal
import TextCursor.Proofs.Number.Nearest
import TextCursor.Proofs.Session.Numbers

/-!
# Numbers with a fraction at the front of a view

A number with a fraction that is peeked at or chopped is the binary64 number nearest to what its
numeral writes, whatever the number of its digits (`Session.floats_round_to_nearest`). Ties go to
the even significand, what is too large becomes infinity, and the sign bit is that of the numeral,
also where it writes zero or is rounded to zero.
-/

namespace TextCursor

namespace Numeral

variable {numeral sign whole fraction : Text}

/-- A numeral is converted to what the number that its digits write, with its sign, is rounded
to. -/
theorem Parts.roundsTo (h : Parts numeral sign whole fraction) :
    BitPattern.RoundsTo (isNegative numeral)
      (if isNegative numeral then -decimal whole fraction else decimal whole fraction)
      (toBinary64 numeral).bits := by
  have hden : 0 < Nat.pow 10 fraction.length := Nat.pow_pos (by decide)
  have hrounded :=
    BitPattern.rounded_ofRatio (isNegative numeral) (value (whole ++ fraction)) hden
  have hratio : (value (whole ++ fraction) / (Nat.pow 10 fraction.length : ℕ) : ℚ) =
      decimal whole fraction := by
    rw [Nat.pow_eq, Nat.cast_pow, Nat.cast_ofNat, value_append_div]
  rw [hratio] at hrounded
  rw [h.toBinary64_eq]
  exact hrounded

end Numeral

namespace Session

variable {s : Session} {handle : Nat} {view : View} {numeral : Text}

/-- A number with a fraction at the front of a view. Where the scan finds a numeral, peeking at the
number and chopping it answer the same binary64 number, with or without a fallback, and the chop
leaves the view behind the numeral. The bits of the number are what the decimal value of the
numeral, the sum of its digits at their places with its sign, is rounded to. The sign bit is set
where the numeral begins with a minus sign. -/
theorem floats_round_to_nearest (hview : s.views[handle]? = some view) (hvalid : view.Valid)
    (hscan : Numeral.scan .fractional (s.segmenter.clusters view.text) = some numeral) :
    let peek := fun fallback => s.step (.query handle (.peekNumber .fractional fallback))
    let chop := fun fallback => s.step (.chop handle (.number .fractional fallback))
    ∃ (x : Binary64) (sign whole fraction : Text),
      ((peek none).result = .ok (.found (.value (.float x))) ∧
        (chop none).result = .ok (.found (.value (.float x))) ∧
        ∀ fallback, (peek (some fallback)).result = .ok (.value (.float x)) ∧
          (chop (some fallback)).result = .ok (.value (.float x))) ∧
      (∀ fallback, (chop fallback).state.windows =
        s.windows.set handle (view.window.drop numeral.length)) ∧
      Numeral.Parts numeral sign whole fraction ∧
      BitPattern.RoundsTo (Numeral.isNegative numeral)
        (if Numeral.isNegative numeral then -Numeral.decimal whole fraction
          else Numeral.decimal whole fraction) x.bits ∧
      (BitPattern.signBit x.bits = 1 ↔ numeral.head? = some '-') := by
  intro peek chop
  have hread : view.window.readNumber (s.segmenter.clusters view.text) .fractional =
      .ok (some ⟨.float (Numeral.toBinary64 numeral), view.window.drop numeral.length⟩) :=
    view.window.readNumber_of_scan hscan
  have hpeek : ∀ fallback, (peek fallback).result =
      .ok (numberAnswer (some (.float (Numeral.toBinary64 numeral))) fallback) := by
    intro fallback
    show (s.step _).result = _
    rw [step_peekNumber hview hvalid, hread]
    rfl
  have hchop : ∀ fallback, (chop fallback).result =
        .ok (numberAnswer (some (.float (Numeral.toBinary64 numeral))) fallback) ∧
      (chop fallback).state.windows =
        s.windows.set handle (view.window.drop numeral.length) := by
    intro fallback
    obtain ⟨hresult, hmoved⟩ := step_chopNumber hview hvalid .fractional fallback
    rw [hread] at hresult
    exact ⟨hresult, hmoved _ hread⟩
  obtain ⟨sign, whole, fraction, hparts⟩ :=
    Numeral.exists_parts (Numeral.scan_eq_some_iff.1 hscan).1.1
  have hrounds := hparts.roundsTo
  refine ⟨_, sign, whole, fraction, ⟨hpeek none, (hchop none).1, fun fallback =>
    ⟨hpeek (some fallback), (hchop (some fallback)).1⟩⟩, fun fallback => (hchop fallback).2, hparts,
    hrounds, ?_⟩
  rw [hrounds.sign, Numeral.isNegative, decide_eq_true_iff]

/-- A number half way between two binary64 numbers, of which the one with the even significand is
answered. -/
theorem floats_round_to_nearest_halfway :
    let numeral : Text := ['-', '4', '5', '0', '3', '5', '9', '9', '6', '2', '7', '3', '7', '0',
      '4', '9', '6', '.', '5']
    let source : Text := 'x' :: numeral ++ [' ', 'k', 'm']
    let view := View.ofWindow ⟨source, 1, 21⟩
    let s : Session := { settings := {}, views := [view] }
    let x : Binary64 := ⟨true, 1075 * 2 ^ 52⟩
    s.views[0]? = some view ∧ view.Valid ∧
      Numeral.scan .fractional (s.segmenter.clusters view.text) = some numeral ∧
      (s.step (.query 0 (.peekNumber .fractional none))).result =
        .ok (.found (.value (.float x))) ∧
      (s.step (.chop 0 (.number .fractional none))).state.windows = [⟨source, 20, 2⟩] ∧
      BitPattern.RoundsTo true (-(4503599627370496 + 1 / 2)) x.bits := by
  intro numeral source view s x
  have hview : s.views[0]? = some view := rfl
  have hvalid : view.Valid := View.valid_ofWindow (by decide)
  have hscan : Numeral.scan .fractional (s.segmenter.clusters view.text) = some numeral := by
    decide
  obtain ⟨found, sign, whole, fraction, ⟨hpeek, -, -⟩, hwindows, hparts, hrounds, -⟩ :=
    floats_round_to_nearest hview hvalid hscan
  have hresult : (s.step (.query 0 (.peekNumber .fractional none))).result =
      .ok (.found (.value (.float x))) := by
    have hconverted : Numeral.toBinary64 numeral = x := by decide +kernel
    have hread : Numeral.read .fractional numeral = .ok (.float x) := by
      rw [← hconverted]
      rfl
    rw [step_peekNumber hview hvalid, view.window.readNumber_of_scan hscan, hread]
    rfl
  obtain ⟨⟩ := hpeek.symm.trans hresult
  obtain ⟨hwhole, hfraction⟩ := hparts.whole_and_fraction
  obtain rfl : numeral.tail.dropLast.dropLast = whole := Eq.trans (by decide) hwhole
  obtain rfl : ['5'] = fraction := Eq.trans (by decide) hfraction
  have hdecimal : Numeral.decimal numeral.tail.dropLast.dropLast ['5'] =
      4503599627370496 + 1 / 2 := by
    have hvalue : Numeral.value (numeral.tail.dropLast.dropLast ++ ['5']) = 45035996273704965 := by
      decide
    rw [← Numeral.value_append_div, hvalue]
    norm_num
  rw [hdecimal] at hrounds
  exact ⟨hview, hvalid, hscan, hresult, hwindows none, hrounds⟩

end Session

end TextCursor
