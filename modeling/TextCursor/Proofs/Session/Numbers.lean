import TextCursor.Proofs.Number.Scan
import TextCursor.Proofs.Session.Frame

/-!
# Numbers at the front of a view

Peeking at a number and chopping it read the same scan, and so they come to the same answer: they
find nothing, give the value of the numeral, or refuse an integer with too many digits
(`Window.readNumber_cases`). Only a chop that gives a value moves anything, and it moves its view
behind the numeral. `Session.numbers_in_front` states this for every valid view, with or without a
fallback, and says which numeral it is: the longest one that leads the clusters of the view.
-/

namespace TextCursor

namespace Numeral

variable {kind : NumberKind} {clusters : List Text} {numeral : Text}

/-- The length of the text that a scan takes for a numeral. There is none of length zero. -/
def scanLength (kind : NumberKind) (clusters : List Text) : Nat :=
  ((scan kind clusters).map List.length).getD 0

/-- The numeral has more digits than the limit that holds for its kind. -/
def Excessive (kind : NumberKind) (numeral : Text) : Prop :=
  kind = .whole ∧ digitLimit < (digits numeral).length

/-- A numeral with too many digits is known by its kind and their number. -/
instance (kind : NumberKind) (numeral : Text) : Decidable (Excessive kind numeral) :=
  inferInstanceAs (Decidable (_ ∧ _))

/-- The empty text does not have too many digits. -/
theorem not_excessive_nil (kind : NumberKind) : ¬ Excessive kind [] := by
  rintro ⟨-, hlimit⟩
  cases hlimit

/-- A numeral has a digit, and so it is not empty. -/
theorem length_pos_of_leads (h : Leads kind clusters numeral) : 0 < numeral.length := by
  have hany := (isNumeral_iff.1 h.1).2
  cases numeral with
  | nil => cases hany
  | cons c later => exact Nat.succ_pos _

/-- A scanned numeral stands at the front of the text that the clusters make up. -/
theorem take_length_of_scan {text : Text} {segmenter : Segmenter}
    (h : scan kind (segmenter.clusters text) = some numeral) :
    text.take numeral.length = numeral := by
  obtain ⟨front, back, hclusters, rfl⟩ := exists_append_of_scan h
  have htext : text = front.flatten ++ back.flatten := by
    rw [← List.flatten_append, ← hclusters, Segmenter.clusters, ClusterRule.flatten_clusters]
  rw [htext, List.take_left]

/-- The length of a scan is that of the longest numeral that leads, and zero where none does. -/
theorem scanLength_spec (kind : NumberKind) (segmenter : Segmenter) (text : Text) :
    let clusters := segmenter.clusters text
    let length := scanLength kind clusters
    (length = 0 ∧ ∀ word, ¬ Leads kind clusters word) ∨
      (0 < length ∧ scan kind clusters = some (text.take length) ∧
        (text.take length).length = length ∧ Leads kind clusters (text.take length) ∧
        ∀ word, Leads kind clusters word → word.length ≤ length) := by
  intro clusters length
  cases hscan : scan kind clusters with
  | none =>
      have hlength : length = 0 := by
        show ((scan kind clusters).map List.length).getD 0 = 0
        rw [hscan]
        rfl
      exact .inl ⟨hlength, scan_eq_none_iff.1 hscan⟩
  | some numeral =>
      have hlength : length = numeral.length := by
        show ((scan kind clusters).map List.length).getD 0 = numeral.length
        rw [hscan]
        rfl
      have htake : text.take length = numeral := hlength ▸ take_length_of_scan hscan
      obtain ⟨hleads, hlongest⟩ := scan_eq_some_iff.1 hscan
      refine .inr ⟨?_, ?_, ?_, ?_, ?_⟩
      · exact hlength ▸ length_pos_of_leads hleads
      · rw [htake]
      · rw [htake, hlength]
      · rw [htake]
        exact hleads
      · intro word hword
        exact hlength ▸ hlongest word hword

/-- Reading a numeral that leads gives a value unless it has too many digits. -/
theorem read_of_leads (h : Leads kind clusters numeral) :
    (Excessive kind numeral ∧
      read kind numeral = .error (.tooManyDigits (digits numeral).length)) ∨
    (¬ Excessive kind numeral ∧ ∃ value, read kind numeral = .ok value ∧
      (kind = .whole → value = .int (wholeValue numeral))) := by
  cases kind with
  | whole =>
      unfold read
      rw [toInt?_eq h.1]
      by_cases hlimit : digitLimit < (digits numeral).length
      · rw [if_pos hlimit, unsigned_eq_digits h.1]
        exact .inl ⟨⟨rfl, hlimit⟩, rfl⟩
      · rw [if_neg hlimit]
        exact .inr ⟨fun hexcessive => hlimit hexcessive.2, _, rfl, fun _ => rfl⟩
  | fractional =>
      refine .inr ⟨?_, _, rfl, ?_⟩
      · rintro ⟨hkind, -⟩
        cases hkind
      · intro hkind
        cases hkind

end Numeral

namespace Window

/-- Where a scan finds a numeral, what is read is what that numeral is read as. -/
theorem readNumber_of_scan {kind : NumberKind} {clusters : List Text} {numeral : Text}
    (w : Window) (hscan : Numeral.scan kind clusters = some numeral) :
    w.readNumber clusters kind =
      (Numeral.read kind numeral).map fun value => some ⟨value, w.drop numeral.length⟩ := by
  unfold readNumber
  rw [hscan]

/-- Reading a number in front of a window finds none, refuses one, or gives its value and the window
behind its numeral. -/
theorem readNumber_cases (w : Window) (segmenter : Segmenter) (kind : NumberKind) :
    let clusters := segmenter.clusters w.text
    let length := Numeral.scanLength kind clusters
    let numeral := w.text.take length
    (length = 0 ∧ w.readNumber clusters kind = .ok none) ∨
    (0 < length ∧ Numeral.Excessive kind numeral ∧
      w.readNumber clusters kind = .error (.tooManyDigits (Numeral.digits numeral).length)) ∨
    (0 < length ∧ ¬ Numeral.Excessive kind numeral ∧
      ∃ value, w.readNumber clusters kind = .ok (some ⟨value, w.drop length⟩) ∧
        (kind = .whole → value = .int (Numeral.wholeValue numeral))) := by
  intro clusters length numeral
  unfold readNumber
  rcases Numeral.scanLength_spec kind segmenter w.text with
    ⟨hlength, hnone⟩ | ⟨hpos, hscan, hnumeral, hleads, -⟩
  · rw [Numeral.scan_eq_none_iff.2 hnone]
    exact .inl ⟨hlength, rfl⟩
  · rw [hscan]
    rcases Numeral.read_of_leads hleads with ⟨hexcessive, hread⟩ | ⟨hfine, value, hread, hvalue⟩
    · simp only [hread]
      exact .inr (.inl ⟨hpos, hexcessive, rfl⟩)
    · simp only [hread, hnumeral]
      exact .inr (.inr ⟨hpos, hfine, value, rfl, hvalue⟩)

end Window

namespace Session

variable {s : Session} {handle : Nat} {view : View}

/-- What a step comes to that reads a number. -/
def numberResult (fallback : Option Datum) :
    Except ChopFault (Option Reading) → Except Error Answer
  | .ok reading => .ok (numberAnswer (reading.map Reading.value) fallback)
  | .error fault => .error (.chop fault)

/-- Peeking at a number answers what is read in front of the window. -/
theorem step_peekNumber (hview : s.views[handle]? = some view) (hvalid : view.Valid)
    (kind : NumberKind) (fallback : Option Datum) :
    (s.step (.query handle (.peekNumber kind fallback))).result =
      numberResult fallback
        (view.window.readNumber (s.segmenter.clusters view.text) kind) := by
  have hsegmenter : (s.memoizedIf true handle).segmenter = s.segmenter := rfl
  simp only [step, hview, Query.needsClusters, answerQuery, View.peekNumber, hsegmenter,
    hvalid.clusters_eq]
  cases view.window.readNumber (s.segmenter.clusters view.text) kind <;> rfl

/-- Chopping a number answers what is read in front of the window, and moves the view behind what
has been read. -/
theorem step_chopNumber (hview : s.views[handle]? = some view) (hvalid : view.Valid)
    (kind : NumberKind) (fallback : Option Datum) :
    (s.step (.chop handle (.number kind fallback))).result =
        numberResult fallback
          (view.window.readNumber (s.segmenter.clusters view.text) kind) ∧
      ∀ reading, view.window.readNumber (s.segmenter.clusters view.text) kind = .ok (some reading) →
        (s.step (.chop handle (.number kind fallback))).state.windows =
          s.windows.set handle reading.rest := by
  simp only [step, hview, chopView, segmenter_putView, View.chopNumber, View.clusters_memoizeIf,
    hvalid.clusters_eq, View.window_memoizeIf]
  cases view.window.readNumber (s.segmenter.clusters view.text) kind with
  | error fault =>
      refine ⟨rfl, ?_⟩
      intro reading hreading
      cases hreading
  | ok found =>
      cases found with
      | none =>
          refine ⟨rfl, ?_⟩
          intro reading hreading
          cases hreading
      | some made =>
          refine ⟨rfl, ?_⟩
          intro reading hreading
          cases hreading
          simp [Except.map, Outcome.done, View.move]

/-- A chop of a number finds none, refuses one, or answers its value and leaves the view behind its
numeral; which of these it is does not depend on the fallback. -/
theorem step_chopNumber_cases (hview : s.views[handle]? = some view) (hvalid : view.Valid)
    (kind : NumberKind) :
    let length := Numeral.scanLength kind (s.segmenter.clusters view.text)
    let numeral := view.text.take length
    let chop := fun fallback => s.step (.chop handle (.number kind fallback))
    (length = 0 ∧ ∀ fallback, (chop fallback).result = .ok (numberAnswer none fallback)) ∨
    (0 < length ∧ Numeral.Excessive kind numeral ∧ ∀ fallback, (chop fallback).result =
      .error (.chop (.tooManyDigits (Numeral.digits numeral).length))) ∨
    (0 < length ∧ ¬ Numeral.Excessive kind numeral ∧ ∃ value,
      (kind = .whole → value = .int (Numeral.wholeValue numeral)) ∧
      ∀ fallback, (chop fallback).result = .ok (numberAnswer (some value) fallback) ∧
        (chop fallback).state.windows = s.windows.set handle (view.window.drop length)) := by
  intro length numeral chop
  have hchop := fun fallback => step_chopNumber hview hvalid kind fallback
  rcases view.window.readNumber_cases s.segmenter kind with
    ⟨hnone, hread⟩ | ⟨hpos, hexcessive, hread⟩ | ⟨hpos, hfine, value, hread, hvalue⟩
  · refine .inl ⟨hnone, fun fallback => ?_⟩
    rw [(hchop fallback).1, View.text, hread]
    rfl
  · refine .inr (.inl ⟨hpos, hexcessive, fun fallback => ?_⟩)
    rw [(hchop fallback).1, View.text, hread]
    rfl
  · refine .inr (.inr ⟨hpos, hfine, value, hvalue, fun fallback => ⟨?_, ?_⟩⟩)
    · rw [(hchop fallback).1, View.text, hread]
      rfl
    · exact (hchop fallback).2 _ hread

/-- An answer about a number is not an error. -/
theorem not_error_of_answer {reply : Reply} {answer : Answer} (h : reply.result = .ok answer) :
    ¬ ∃ error, reply.result = .error error := by
  rintro ⟨error, herror⟩
  rw [h] at herror
  cases herror

/-- Peeking at a number moves nothing. -/
theorem unmoved_of_peekNumber (hview : s.views[handle]? = some view) (kind : NumberKind)
    (fallback : Option Datum) :
    Unmoved s (s.step (.query handle (.peekNumber kind fallback))).state := by
  simp only [step, hview, (answerQuery_changes_nothing _ _ _ _).1]
  exact unmoved_memoizedIf hview true

/-- The number at the front of a view. The scan is as long as the longest numeral that leading
clusters of one character each spell, and of length zero when there is none. Peeking and chopping
find nothing exactly in that case, where a fallback is answered if there is one. Otherwise both
answer the same value, for an integer the number that the numeral writes, and the chop leaves the
view right behind the numeral. An integer of more digits than the limit is the one thing that is
refused, by peeking and chopping alike. Whatever peeking comes to moves nothing, and neither does a
chop that gives no value. -/
theorem numbers_in_front (hview : s.views[handle]? = some view) (hvalid : view.Valid)
    (kind : NumberKind) :
    let clusters := s.segmenter.clusters view.text
    let length := Numeral.scanLength kind clusters
    let numeral := view.text.take length
    let peek := fun fallback => s.step (.query handle (.peekNumber kind fallback))
    let chop := fun fallback => s.step (.chop handle (.number kind fallback))
    ((length = 0 ∧ ∀ word, ¬ Numeral.Leads kind clusters word) ∨
      (numeral.length = length ∧ Numeral.Leads kind clusters numeral ∧
        ∀ word, Numeral.Leads kind clusters word → word.length ≤ length)) ∧
    ((peek none).result = .ok .notFound ↔ length = 0) ∧
    ((chop none).result = .ok .notFound ↔ length = 0) ∧
    (length = 0 → ∀ fallback, (peek (some fallback)).result = .ok (.value fallback) ∧
      (chop (some fallback)).result = .ok (.value fallback)) ∧
    (0 < length → ¬ Numeral.Excessive kind numeral → ∃ value,
      (kind = .whole → value = .int (Numeral.wholeValue numeral)) ∧
      (peek none).result = .ok (.found (.value value)) ∧
      (chop none).result = .ok (.found (.value value)) ∧
      ∀ fallback, (peek (some fallback)).result = .ok (.value value) ∧
        (chop (some fallback)).result = .ok (.value value)) ∧
    ∀ fallback,
      ((∃ error, (peek fallback).result = .error error) ↔ Numeral.Excessive kind numeral) ∧
      ((∃ error, (chop fallback).result = .error error) ↔ Numeral.Excessive kind numeral) ∧
      (Numeral.Excessive kind numeral →
        (peek fallback).result =
            .error (.chop (.tooManyDigits (Numeral.digits numeral).length)) ∧
          (chop fallback).result =
            .error (.chop (.tooManyDigits (Numeral.digits numeral).length))) ∧
      Unmoved s (peek fallback).state ∧
      (length = 0 ∨ Numeral.Excessive kind numeral → Unmoved s (chop fallback).state) ∧
      (0 < length → ¬ Numeral.Excessive kind numeral →
        (chop fallback).state.windows = s.windows.set handle (view.window.drop length)) := by
  intro clusters length numeral peek chop
  have hsame : ∀ fallback, (peek fallback).result = (chop fallback).result := fun fallback =>
    (step_peekNumber hview hvalid kind fallback).trans
      (step_chopNumber hview hvalid kind fallback).1.symm
  have hstays : ∀ fallback, Unmoved s (peek fallback).state := unmoved_of_peekNumber hview kind
  have hlongest : (length = 0 ∧ ∀ word, ¬ Numeral.Leads kind clusters word) ∨
      (numeral.length = length ∧ Numeral.Leads kind clusters numeral ∧
        ∀ word, Numeral.Leads kind clusters word → word.length ≤ length) :=
    (Numeral.scanLength_spec kind s.segmenter view.text).imp_right fun h => h.2.2
  simp only [hsame]
  refine ⟨hlongest, ?_⟩
  rcases step_chopNumber_cases hview hvalid kind with
    ⟨hnone, hresult⟩ | ⟨hpos, hexcessive, hresult⟩ | ⟨hpos, hfine, value, hvalue, hreply⟩
  · -- there is no numeral
    have hfine : ¬ Numeral.Excessive kind numeral := by
      show ¬ Numeral.Excessive kind (view.text.take length)
      rw [show length = 0 from hnone, List.take_zero]
      exact Numeral.not_excessive_nil kind
    have hanswers := fun fallback => not_error_of_answer (hresult fallback)
    refine ⟨iff_of_true (hresult none) hnone, iff_of_true (hresult none) hnone,
      fun _ fallback => ⟨hresult (some fallback), hresult (some fallback)⟩,
      fun hpos => absurd hnone (Nat.ne_of_gt hpos), fun fallback => ?_⟩
    exact ⟨iff_of_false (hanswers fallback) hfine, iff_of_false (hanswers fallback) hfine,
      fun h => absurd h hfine, hstays fallback,
      fun _ => unmoved_of_no_number (hresult none) fallback,
      fun hpos => absurd hnone (Nat.ne_of_gt hpos)⟩
  · -- there is one, and it has too many digits
    have hne : ¬ length = 0 := Nat.ne_of_gt hpos
    have hfound : ¬ (chop none).result = .ok .notFound := fun h =>
      not_error_of_answer h ⟨_, hresult none⟩
    refine ⟨iff_of_false hfound hne, iff_of_false hfound hne, fun h => absurd h hne,
      fun _ hfine => absurd hexcessive hfine, fun fallback => ?_⟩
    exact ⟨iff_of_true ⟨_, hresult fallback⟩ hexcessive,
      iff_of_true ⟨_, hresult fallback⟩ hexcessive,
      fun _ => ⟨hresult fallback, hresult fallback⟩, hstays fallback,
      fun _ => unmoved_of_error (hresult fallback), fun _ hfine => absurd hexcessive hfine⟩
  · -- there is one, and it has a value
    have hresult := fun fallback => (hreply fallback).1
    have hne : ¬ length = 0 := Nat.ne_of_gt hpos
    have hfound : ¬ (chop none).result = .ok .notFound := fun h =>
      numberAnswer_some_ne value none (Except.ok.inj ((hresult none).symm.trans h))
    have hanswers := fun fallback => not_error_of_answer (hresult fallback)
    refine ⟨iff_of_false hfound hne, iff_of_false hfound hne, fun h => absurd h hne,
      fun _ _ => ⟨value, hvalue, hresult none, hresult none,
        fun fallback => ⟨hresult (some fallback), hresult (some fallback)⟩⟩, fun fallback => ?_⟩
    exact ⟨iff_of_false (hanswers fallback) hfine, iff_of_false (hanswers fallback) hfine,
      fun h => absurd h hfine, hstays fallback, fun h => (h.elim hne hfine).elim,
      fun _ _ => (hreply fallback).2⟩

/-- A number in the middle of a source, whose last digit carries a mark and is not part of it, and a
text of one digit more than the limit allows. -/
theorem numbers_in_front_marked_digit :
    (let source : Text := ['=', '-', '1', '2', '.', '5', '0', '\u0301', '.', ')']
      let view := View.ofWindow ⟨source, 1, 8⟩
      let s : Session := { settings := {}, views := [view] }
      s.views[0]? = some view ∧ view.Valid ∧
        Numeral.scanLength .whole (s.segmenter.clusters view.text) = 3 ∧
        (s.step (.query 0 (.peekNumber .whole none))).result = .ok (.found (.value (.int (-12)))) ∧
        (s.step (.query 0 (.peekNumber .whole (some (.int 0))))).result =
          .ok (.value (.int (-12))) ∧
        (s.step (.chop 0 (.number .whole none))).result = .ok (.found (.value (.int (-12)))) ∧
        (s.step (.chop 0 (.number .fractional none))).state.windows = [⟨source, 6, 3⟩]) ∧
    ∃ digits : Text, digits.length = 4301 ∧
      let view := View.ofText digits
      let s : Session := { settings := {}, views := [view] }
      s.views[0]? = some view ∧ view.Valid ∧
        (s.step (.query 0 (.peekNumber .whole (some (.int 0))))).result =
          .error (.chop (.tooManyDigits 4301)) ∧
        Unmoved s (s.step (.chop 0 (.number .whole none))).state := by
  constructor
  · intro source view s
    have hview : s.views[0]? = some view := rfl
    have hvalid : view.Valid := View.valid_ofWindow (by decide)
    have hlength : Numeral.scanLength .whole (s.segmenter.clusters view.text) = 3 := by decide
    have hfraction : Numeral.scanLength .fractional (s.segmenter.clusters view.text) = 5 := by
      decide
    have hwritten : Numeral.wholeValue (view.text.take 3) = -12 := by decide
    obtain ⟨-, -, -, -, hwhole, -⟩ := numbers_in_front hview hvalid .whole
    obtain ⟨-, -, -, -, -, hfractional⟩ := numbers_in_front hview hvalid .fractional
    rw [hlength] at hwhole
    rw [hfraction] at hfractional
    obtain ⟨value, hvalue, hpeek, hchop, hfallback⟩ := hwhole (by decide) (by decide)
    obtain ⟨-, -, -, -, -, hmoved⟩ := hfractional none
    obtain rfl := (hvalue rfl).trans (congrArg Datum.int hwritten)
    exact ⟨hview, hvalid, hlength, hpeek, (hfallback (.int 0)).1, hchop,
      hmoved (by decide) (by decide)⟩
  · -- all that is used of the long text is that it has so many digits
    suffices hlong : ∀ digits : Text, Numeral.AreDigits digits → digits.length = 4301 →
        let view := View.ofText digits
        let s : Session := { settings := {}, views := [view] }
        s.views[0]? = some view ∧ view.Valid ∧
          (s.step (.query 0 (.peekNumber .whole (some (.int 0))))).result =
            .error (.chop (.tooManyDigits 4301)) ∧
          Unmoved s (s.step (.chop 0 (.number .whole none))).state by
      have hdigits : Numeral.AreDigits (List.replicate 4301 '0') := by
        intro c hc
        rw [(List.mem_replicate.1 hc).2]
        rfl
      have hcount : (List.replicate 4301 '0').length = 4301 := List.length_replicate
      exact ⟨List.replicate 4301 '0', hcount, hlong _ hdigits hcount⟩
    intro digits hdigits hcount view s
    have hview : s.views[0]? = some view := rfl
    have hvalid : view.Valid := View.valid_ofText _
    have htext : view.text = digits := Window.text_ofText _
    have hscan : Numeral.scan .whole (s.segmenter.clusters view.text) = some digits := by
      have hne : digits ≠ [] := List.ne_nil_of_length_pos (by omega)
      have hend : Numeral.Undigited [] := by
        decide
      have hall := Numeral.scan_digits (.inl rfl) hdigits hne hend (by decide)
      rw [htext]
      rwa [List.nil_append, List.append_nil] at hall
    have htake : view.text.take (Numeral.scanLength .whole (s.segmenter.clusters view.text)) =
        digits := by
      rw [Numeral.scanLength, hscan]
      exact Numeral.take_length_of_scan hscan
    have hall : Numeral.digits digits = digits := List.filter_eq_self.2 hdigits
    have hexcessive : Numeral.Excessive .whole digits := by
      refine ⟨rfl, ?_⟩
      rw [hall, hcount]
      decide
    obtain ⟨-, -, -, -, -, hrefused⟩ := numbers_in_front hview hvalid .whole
    rw [htake] at hrefused
    obtain ⟨-, -, herror, -, -, -⟩ := hrefused (some (.int 0))
    obtain ⟨-, -, -, -, hstays, -⟩ := hrefused none
    refine ⟨hview, hvalid, ?_, hstays (.inr hexcessive)⟩
    rw [(herror hexcessive).1, hall, hcount]

end Session

end TextCursor
