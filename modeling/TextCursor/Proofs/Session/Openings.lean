import TextCursor.Proofs.Number.Opening
import TextCursor.Proofs.Session.Numbers

/-!
# Numbers and the characters of a view

Whether a chop of a number finds one, and what it takes off the view, can be told from the
characters of the view. With graphemes for clusters, it is the opening of the view's text, less its
last character where a mark or a joiner follows; with code points, it is the opening
(`Session.chops_opening`). This is a number if it has a digit, and it is taken off unless it is an
integer of more digits than the limit (`Session.digits_beyond_limit_stay`).
-/

namespace TextCursor

namespace Numeral

variable {kind : NumberKind} {text : Text}

/-- A text that is admitted as it stands is its own opening. -/
theorem opens_self (h : NumberState.start.Admits kind text) : Opens kind text text :=
  ⟨List.prefix_refl text, h, fun _ hother _ => hother.length_le⟩

/-- A numeral with too many digits has a digit. -/
theorem Excessive.any_isDigit (h : Excessive kind text) : text.any Char.isDigit := by
  obtain ⟨c, hc⟩ := List.exists_mem_of_length_pos (Nat.zero_lt_of_lt h.2)
  exact List.any_eq_true.2 ⟨c, List.mem_filter.1 hc⟩

/-- Digits are admitted. -/
theorem AreDigits.admitted (kind : NumberKind) (h : AreDigits text) :
    NumberState.start.Admits kind text :=
  ⟨[], text, rfl, .inl rfl, .digits kind h⟩

end Numeral

namespace Session

/-- What a chop of a number comes to where the number would be the given text: it finds nothing if
that has no digit, refuses an integer with too many of them, and otherwise answers the value of the
text and takes exactly the text off the view. Where it takes nothing off, nothing moves. -/
structure ChopsNumeral (s : Session) (handle : Nat) (kind : NumberKind) (w : Window)
    (numeral : Text) (fallback : Option Datum) (reply : Reply) : Prop where
  missing : ¬ numeral.any Char.isDigit →
    reply.result = .ok (numberAnswer none fallback) ∧ Unmoved s reply.state
  refused : Numeral.Excessive kind numeral →
    reply.result = .error (.chop (.tooManyDigits (Numeral.digits numeral).length)) ∧
      Unmoved s reply.state
  taken : numeral.any Char.isDigit → ¬ Numeral.Excessive kind numeral →
    ∃ value left, Numeral.read kind numeral = .ok value ∧ w.text = numeral ++ left.text ∧
      left = w.drop numeral.length ∧ reply.result = .ok (numberAnswer (some value) fallback) ∧
      reply.state.windows = s.windows.set handle left

variable {s : Session} {handle : Nat} {view : View} {kind : NumberKind} {numeral : Text}

/-- Where the scan finds no numeral, a chop of a number finds nothing. -/
theorem chopNumber_missing (hview : s.views[handle]? = some view) (hvalid : view.Valid)
    (hscan : Numeral.scan kind (s.segmenter.clusters view.text) = none)
    (fallback : Option Datum) :
    (s.step (.chop handle (.number kind fallback))).result = .ok (numberAnswer none fallback) ∧
      Unmoved s (s.step (.chop handle (.number kind fallback))).state := by
  have hread : view.window.readNumber (s.segmenter.clusters view.text) kind = .ok none := by
    unfold Window.readNumber
    rw [hscan]
  have hresult : ∀ fallback, (s.step (.chop handle (.number kind fallback))).result =
      .ok (numberAnswer none fallback) := by
    intro fallback
    rw [(step_chopNumber hview hvalid kind fallback).1, hread]
    rfl
  exact ⟨hresult fallback, unmoved_of_no_number (hresult none) fallback⟩

/-- A chop of a number is settled by the text that the scan goes over. -/
theorem chopsNumeral_of_accepted (hview : s.views[handle]? = some view) (hvalid : view.Valid)
    (haccepted :
      (Numeral.accepted kind .start (s.segmenter.clusters view.text)).flatten = numeral)
    (fallback : Option Datum) :
    s.ChopsNumeral handle kind view.window numeral fallback
      (s.step (.chop handle (.number kind fallback))) := by
  obtain ⟨hresult, hmoved⟩ := step_chopNumber hview hvalid kind fallback
  have hscan : Numeral.scan kind (s.segmenter.clusters view.text) =
      if numeral.any Char.isDigit then some numeral else none := by
    rw [← haccepted]
    rfl
  constructor
  · intro hnone
    rw [if_neg hnone] at hscan
    exact chopNumber_missing hview hvalid hscan fallback
  · intro hexcessive
    rw [if_pos hexcessive.any_isDigit] at hscan
    rcases Numeral.read_of_leads (Numeral.scan_eq_some_iff.1 hscan).1 with ⟨-, herror⟩ | ⟨hfine, -⟩
    · rw [view.window.readNumber_of_scan hscan, herror] at hresult
      exact ⟨hresult, unmoved_of_error hresult⟩
    · exact absurd hexcessive hfine
  · intro hany hfine
    rw [if_pos hany] at hscan
    rcases Numeral.read_of_leads (Numeral.scan_eq_some_iff.1 hscan).1 with
      ⟨hexcessive, -⟩ | ⟨-, value, hvalue, -⟩
    · exact absurd hexcessive hfine
    · rw [view.window.readNumber_of_scan hscan, hvalue] at hresult hmoved
      have htext : view.window.text = numeral ++ (view.window.drop numeral.length).text := by
        have htake : view.window.text.take numeral.length = numeral :=
          Numeral.take_length_of_scan hscan
        rw [Window.text_drop]
        calc view.window.text
            = view.window.text.take numeral.length ++ view.window.text.drop numeral.length :=
              (List.take_append_drop _ _).symm
          _ = numeral ++ view.window.text.drop numeral.length := by rw [htake]
      exact ⟨value, _, hvalue, htext, rfl, hresult, hmoved _ rfl⟩

/-- A chop of a number in the characters of a view. The view's text has an opening, the longest text
in front that is a sign or none and digits, and where a fraction is admitted perhaps a point and
more digits. With graphemes for clusters, the opening less its last character where a mark or a
joiner follows it is what is taken off if it has a digit, and nothing is found if it has none. With
code points for clusters, this holds of the opening as it is. An integer with too many digits is
refused. -/
theorem chops_opening (hview : s.views[handle]? = some view) (hvalid : view.Valid)
    (kind : NumberKind) :
    ∃ opening rest, view.text = opening ++ rest ∧ Numeral.Opens kind opening view.text ∧
      ∀ fallback,
        let reply := s.step (.chop handle (.number kind fallback))
        (s.segmenter = .graphemes → s.ChopsNumeral handle kind view.window
          (Numeral.unmarked opening rest) fallback reply) ∧
        (s.segmenter = .codePoints → s.ChopsNumeral handle kind view.window opening fallback
          reply) := by
  obtain ⟨opening, hopens⟩ := Numeral.exists_opens kind view.text
  obtain ⟨rest, htext⟩ := hopens.leads
  refine ⟨opening, rest, htext.symm, hopens, fun fallback => ⟨?_, ?_⟩⟩
  · intro hsegmenter
    apply chopsNumeral_of_accepted hview hvalid
    rw [hsegmenter, ← htext]
    exact Numeral.accepted_graphemes (htext.symm ▸ hopens)
  · intro hsegmenter
    apply chopsNumeral_of_accepted hview hvalid
    rw [hsegmenter]
    exact Numeral.accepted_codePoints hopens

/-- A digit that carries a mark behind a sign and a point, where no digit is left with graphemes,
and digits of which the last one carries a mark. -/
theorem chops_opening_marked_digits :
    let source : Text := ['=', '-', '.', '5', '\u0301', '1', '2', '\u20e3', ')']
    let pointed := View.ofWindow ⟨source, 1, 4⟩
    let whole := View.ofWindow ⟨source, 5, 4⟩
    let s : Session := { settings := {}, views := [pointed, whole] }
    let t : Session := { settings := { segmenter := .codePoints }, views := [pointed, whole] }
    s.views[0]? = some pointed ∧ s.views[1]? = some whole ∧ t.views[0]? = some pointed ∧
      pointed.Valid ∧ whole.Valid ∧
      (s.step (.chop 0 (.number .fractional none))).result = .ok .notFound ∧
      Unmoved s (s.step (.chop 0 (.number .fractional none))).state ∧
      (s.step (.chop 1 (.number .whole none))).result = .ok (.found (.value (.int 1))) ∧
      (s.step (.chop 1 (.number .whole none))).state.windows =
        [⟨source, 1, 4⟩, ⟨source, 6, 3⟩] ∧
      (t.step (.chop 0 (.number .fractional none))).state.windows =
        [⟨source, 4, 1⟩, ⟨source, 5, 4⟩] := by
  intro source pointed whole s t
  have hpointed : pointed.Valid := View.valid_ofWindow (by decide)
  have hwhole : whole.Valid := View.valid_ofWindow (by decide)
  have hviewPointed : s.views[0]? = some pointed := rfl
  have hviewWhole : s.views[1]? = some whole := rfl
  have hviewPlain : t.views[0]? = some pointed := rfl
  refine ⟨hviewPointed, hviewWhole, hviewPlain, hpointed, hwhole, ?_⟩
  -- the openings are what code points spell, and the rest is what stands behind them
  obtain ⟨opening, rest, htext, hopens, hchops⟩ := chops_opening hviewPointed hpointed .fractional
  obtain rfl : opening = ['-', '.', '5'] :=
    (Numeral.accepted_codePoints hopens).symm.trans (by decide)
  have hparts : ['-', '.', '5'] ++ ['\u0301'] = ['-', '.', '5'] ++ rest := htext
  obtain rfl := List.append_cancel_left hparts
  have hunmarked : Numeral.unmarked ['-', '.', '5'] ['\u0301'] = ['-', '.'] :=
    if_pos ⟨by decide, '\u0301', rfl, by decide⟩
  have hleft := (hchops none).1 rfl
  rw [hunmarked] at hleft
  obtain ⟨hnothing, hstays⟩ := hleft.missing (by decide)
  obtain ⟨opening, rest, htext, hopens, hchops⟩ := chops_opening hviewWhole hwhole .whole
  obtain rfl : opening = ['1', '2'] :=
    (Numeral.accepted_codePoints hopens).symm.trans (by decide)
  have hparts : ['1', '2'] ++ ['\u20e3', ')'] = ['1', '2'] ++ rest := htext
  obtain rfl := List.append_cancel_left hparts
  have hunmarked : Numeral.unmarked ['1', '2'] ['\u20e3', ')'] = ['1'] :=
    if_pos ⟨by decide, '\u20e3', rfl, by decide +kernel⟩
  have hleft := (hchops none).1 rfl
  rw [hunmarked] at hleft
  obtain ⟨value, left, hvalue, -, rfl, hresult, hwindows⟩ := hleft.taken (by decide) (by decide)
  obtain rfl : .int 1 = value := Except.ok.inj hvalue
  obtain ⟨opening, rest, htext, hopens, hchops⟩ := chops_opening hviewPlain hpointed .fractional
  obtain rfl : opening = ['-', '.', '5'] :=
    (Numeral.accepted_codePoints hopens).symm.trans (by decide)
  obtain ⟨-, -, -, -, rfl, -, hplain⟩ := ((hchops none).2 rfl).taken (by decide) (by decide)
  exact ⟨hnothing, hstays, hresult, hwindows, hplain⟩

/-- One digit more than the limit stays where it is. The digits are all of the view, nothing follows
them, and yet the chop takes nothing off. -/
theorem digits_beyond_limit_stay :
    let digits : Text := List.replicate 4301 '1'
    let view := View.ofText digits
    let s : Session := { settings := {}, views := [view] }
    s.views[0]? = some view ∧ view.Valid ∧ s.segmenter = .graphemes ∧ view.text = digits ++ [] ∧
      Numeral.Opens .whole digits view.text ∧ Numeral.unmarked digits [] = digits ∧
      digits.any Char.isDigit ∧
      (s.step (.chop 0 (.number .whole none))).result = .error (.chop (.tooManyDigits 4301)) ∧
      (s.step (.chop 0 (.number .whole none))).state.windows = [⟨digits, 0, 4301⟩] := by
  -- all that is used of the digits is what they are and how many they are
  have hdigits : Numeral.AreDigits (List.replicate 4301 '1') := by
    intro c hc
    rw [(List.mem_replicate.1 hc).2]
    rfl
  have hcount : (List.replicate 4301 '1').length = 4301 := List.length_replicate
  generalize List.replicate 4301 '1' = digits at hdigits hcount ⊢
  intro digits view s
  have hview : s.views[0]? = some view := rfl
  have hvalid : view.Valid := View.valid_ofText _
  have htext : view.text = digits ++ [] := by
    rw [List.append_nil]
    exact Window.text_ofText _
  have hopens : Numeral.Opens .whole digits (digits ++ []) := by
    rw [List.append_nil]
    exact Numeral.opens_self (hdigits.admitted .whole)
  have hunmarked : Numeral.unmarked digits [] = digits := by
    unfold Numeral.unmarked
    rw [if_neg]
    rintro ⟨-, c, hc, -⟩
    cases hc
  have hall : Numeral.digits digits = digits := List.filter_eq_self.2 hdigits
  have hexcessive : Numeral.Excessive .whole digits := by
    refine ⟨rfl, ?_⟩
    rw [hall, hcount]
    decide
  have haccepted : (Numeral.accepted .whole .start (s.segmenter.clusters view.text)).flatten =
      digits := by
    rw [htext]
    exact (Numeral.accepted_graphemes hopens).trans hunmarked
  obtain ⟨hresult, hstays⟩ :=
    (chopsNumeral_of_accepted hview hvalid haccepted none).refused hexcessive
  have hsize : s.windows = [⟨digits, 0, 4301⟩] := by
    rw [← hcount]
    rfl
  rw [hall, hcount] at hresult
  exact ⟨hview, hvalid, rfl, htext, htext ▸ hopens, hunmarked, hexcessive.any_isDigit, hresult,
    hstays.windows.trans hsize⟩

end Session

end TextCursor
