import TextCursor.Proofs.Session.Delimiter

/-!
# Raw searches

A raw search asks for a text in the text of a view, whatever the clusters are. Looking for its
offset, asking whether the view begins or ends with it and chopping through it are answered one by
one; that they speak of the same place is `Session.searches_agree`. A delimiter is looked for
between boundaries only, so it is never found further in front than its text, and just there when
every character is a cluster (`Window.chopThrough?_codePoints`).
-/

namespace TextCursor

namespace Window

variable {w : Window} {needle : Text} {offset : Nat}

/-- Removing the whole window leaves it empty at its end. -/
theorem chopAll_eq (w : Window) : w.chopAll = ⟨w, ⟨w.source, w.stop, 0⟩⟩ := by
  unfold chopAll Cut.front
  simp only [take, drop, stop, Nat.add_zero, Nat.sub_self]

/-- A chop through a text that stands in the window parts the text at the first such place. -/
theorem chopThroughText_of_indexOf? (hfits : w.Fits)
    (h : Text.indexOf? needle w.text = some offset) :
    w.chopThroughText needle = .front w offset needle.length ∧
      (Cut.front w offset needle.length).removed.text = w.text.take offset ∧
      (Cut.front w offset needle.length).rest.text = w.text.drop (offset + needle.length) := by
  obtain ⟨⟨hinside, -⟩, -⟩ := Text.indexOf?_eq_some_iff.1 h
  rw [hfits.length_text] at hinside
  refine ⟨?_, w.text_take (by omega), w.text_drop _⟩
  unfold chopThroughText
  rw [h]

/-- A chop through a text that does not stand in the window removes all of it. -/
theorem chopThroughText_of_none (h : Text.indexOf? needle w.text = none) :
    w.chopThroughText needle = ⟨w, ⟨w.source, w.stop, 0⟩⟩ := by
  unfold chopThroughText
  rw [h]
  exact chopAll_eq w

/-- With code points for clusters, a chop through a delimiter is one through its text. -/
theorem chopThrough?_codePoints (w : Window) (delimiter : Text) :
    (w.chopThrough? (Segmenter.codePoints.clusters w.text)
      (Segmenter.codePoints.clusters delimiter).length delimiter).getD w.chopAll =
        w.chopThroughText delimiter := by
  unfold chopThrough? chopThroughText
  rw [← Segmenter.beforeRun_codePoints delimiter w.text]
  cases beforeRun (Segmenter.codePoints.clusters delimiter).length delimiter
      (Segmenter.codePoints.clusters w.text) with
  | none => rfl
  | some before => rfl

end Window

/-- A text that is read at some offset is found there or further in front. -/
theorem Text.exists_indexOf?_le {needle text : Text} {offset : Nat}
    (h : Text.StandsAt needle text offset) :
    ∃ first, Text.indexOf? needle text = some first ∧ first ≤ offset := by
  cases hindex : Text.indexOf? needle text with
  | none => exact absurd h (Text.indexOf?_eq_none_iff.1 hindex offset)
  | some first =>
      obtain ⟨-, hleast⟩ := Text.indexOf?_eq_some_iff.1 hindex
      refine ⟨first, rfl, ?_⟩
      by_contra hbeyond
      exact hleast offset (by omega) h

/-- A delimiter that stands between boundaries is read there. -/
theorem Segmenter.StandsAt.text {segmenter : Segmenter} {delimiter text : Text} {offset : Nat}
    (h : segmenter.StandsAt delimiter text offset) : Text.StandsAt delimiter text offset := by
  obtain ⟨front, back, hclusters, rfl⟩ := standsAt_iff.1 h
  obtain ⟨-, hread, -⟩ := h
  refine ⟨?_, hread⟩
  have hlength := congrArg extent hclusters
  rw [extent_append, extent_append, extent, flatten_clusters] at hlength
  rw [hlength, show extent (segmenter.clusters delimiter) = delimiter.length from
    congrArg List.length (segmenter.flatten_clusters delimiter)]
  omega

namespace Session

variable {s : Session} {handle : Nat} {view : View} {operand : Operand} {needle : Text}

/-- The offset that a search answers, as an integer that is negative where there is none. -/
def offsetOf (index : Option Nat) : Int :=
  (index.map Int.ofNat).getD (-1)

/-- The offset zero is the only one that is answered as zero. -/
theorem offsetOf_eq_zero_iff (index : Option Nat) : offsetOf index = 0 ↔ index = some 0 := by
  cases index with
  | none => simp [offsetOf]
  | some offset => simp [offsetOf]

/-- A query that is put with the text of an operand is put with the text that the operand has in
the session, also when it is the view itself. -/
theorem step_query_withOperand (hview : s.views[handle]? = some view)
    (hneedle : s.operandText? operand = some needle) {query : Query} (answer : Text → Answer)
    (hquery : ∀ (t : Session) (clusters : List Text),
      t.answerQuery view clusters query = t.withOperand operand fun text => .done (answer text) t) :
    (s.step (.query handle query)).result = .ok (answer needle) := by
  have hsame : (s.memoizedIf query.needsClusters handle).operandText? operand = some needle := by
    rw [memoizedIf_eq_putView hview, operandText?_memoized hview, hneedle]
  simp only [step, hview, hquery, withOperand, hsame]
  rfl

/-- A chop through the text of an operand makes the cut of the window through that text. -/
theorem takes_throughText (hview : s.views[handle]? = some view) (hvalid : view.Valid)
    (hneedle : s.operandText? operand = some needle) :
    s.Takes handle (.throughText operand) (view.window.chopThroughText needle) := by
  apply takes_of_cut hview hvalid
  show (s.operandText? operand).map view.window.chopThroughText = _
  rw [hneedle, Option.map_some]

/-- A delimiter that is chopped through stands where the piece ends. -/
theorem exists_takes_of_found (hview : s.views[handle]? = some view) (hvalid : view.Valid)
    {delimiter : Text} {made : Answer}
    (h : (s.step (.chop handle (.tryThrough delimiter))).result = .ok (.found made)) :
    ∃ first, s.segmenter.StandsAt delimiter view.text first ∧
      s.Takes handle (.tryThrough delimiter) (.front view.window first delimiter.length) := by
  by_cases hoccurs : s.segmenter.Occurs delimiter view.text
  · obtain ⟨first, hstands, -, hcut, -, -⟩ := Window.chopThrough?_first hvalid.fits
      (Segmenter.occurs_iff_exists_standsAt.1 hoccurs)
    exact ⟨first, hstands, takes_of_cut hview hvalid hcut⟩
  · rw [tryThrough_notFound hview hvalid hoccurs] at h
    cases h

/-- Raw searches for a text, given or that of a view, speak of one place. The offset that is
answered is the least one at which the text stands wholly inside the view, and it is negative where
there is none; the view begins with the text exactly when that offset is zero, and ends with it
exactly when it is a suffix. Chopping through the text answers what is in front of the offset and
leaves what is behind the text there; where there is no such place it answers the whole view and
leaves it empty at its end, and with the empty text it changes nothing. A delimiter that can be
chopped through is read in the view, and not further in front than its text is; when every
character is a cluster, chopping through the delimiter and through its text is the same. -/
theorem searches_agree (hview : s.views[handle]? = some view) (hvalid : view.Valid)
    (hneedle : s.operandText? operand = some needle) :
    ∃ index : Option Nat,
      (∀ offset, index = some offset ↔ Text.StandsAt needle view.text offset ∧
        ∀ other < offset, ¬ Text.StandsAt needle view.text other) ∧
      (index = none ↔ ∀ offset, ¬ Text.StandsAt needle view.text offset) ∧
      (s.step (.query handle (.indexOf operand))).result = .ok (intAnswer (offsetOf index)) ∧
      (s.step (.query handle (.startsWith operand))).result =
        .ok (boolAnswer (offsetOf index = 0)) ∧
      (s.step (.query handle (.endsWith operand))).result =
        .ok (boolAnswer (needle <:+ view.text)) ∧
      (∀ offset, index = some offset →
        s.Takes handle (.throughText operand) (.front view.window offset needle.length) ∧
        (Cut.front view.window offset needle.length).removed.text = view.text.take offset ∧
        (Cut.front view.window offset needle.length).rest.text =
          view.text.drop (offset + needle.length)) ∧
      (index = none → s.Takes handle (.throughText operand)
        ⟨view.window, ⟨view.window.source, view.window.stop, 0⟩⟩) ∧
      (needle = [] → s.Takes handle (.throughText operand)
        ⟨⟨view.window.source, view.window.start, 0⟩, view.window⟩) ∧
      (∀ made, (s.step (.chop handle (.tryThrough needle))).result = .ok (.found made) →
        ∃ offset first, index = some offset ∧ offset ≤ first ∧
          s.Takes handle (.tryThrough needle) (.front view.window first needle.length)) ∧
      (s.segmenter = .codePoints → ∃ cut,
        s.Takes handle (.through needle) cut ∧ s.Takes handle (.throughText operand) cut) := by
  have htakes := takes_throughText hview hvalid hneedle
  refine ⟨Text.indexOf? needle view.text, fun offset => Text.indexOf?_eq_some_iff,
    Text.indexOf?_eq_none_iff, ?_, ?_, ?_, ?_, ?_, ?_, ?_, ?_⟩
  · exact step_query_withOperand hview hneedle
      (fun text => intAnswer (offsetOf (Text.indexOf? text view.text))) fun _ _ => rfl
  · have hbegins : needle.isPrefixOf view.text =
        decide (offsetOf (Text.indexOf? needle view.text) = 0) := by
      rw [Bool.eq_iff_iff, List.isPrefixOf_iff_prefix, decide_eq_true_iff, offsetOf_eq_zero_iff,
        Text.indexOf?_eq_some_iff, ← Text.standsAt_zero_iff]
      simp
    rw [← hbegins]
    exact step_query_withOperand hview hneedle
      (fun text => boolAnswer (text.isPrefixOf view.text)) fun _ _ => rfl
  · have hends : needle.isSuffixOf view.text = decide (needle <:+ view.text) := by
      rw [Bool.eq_iff_iff, List.isSuffixOf_iff_suffix, decide_eq_true_iff]
    rw [← hends]
    exact step_query_withOperand hview hneedle
      (fun text => boolAnswer (text.isSuffixOf view.text)) fun _ _ => rfl
  · intro offset hindex
    obtain ⟨hcut, hremoved, hrest⟩ := Window.chopThroughText_of_indexOf? hvalid.fits hindex
    exact ⟨hcut ▸ htakes, hremoved, hrest⟩
  · intro hindex
    exact Window.chopThroughText_of_none hindex ▸ htakes
  · rintro rfl
    obtain ⟨hcut, -, -⟩ := Window.chopThroughText_of_indexOf? hvalid.fits
      (Text.indexOf?_append [] view.window.text)
    rwa [hcut] at htakes
  · intro made hmade
    obtain ⟨first, hstands, htry⟩ := exists_takes_of_found hview hvalid hmade
    obtain ⟨offset, hindex, hle⟩ := Text.exists_indexOf?_le hstands.text
    exact ⟨offset, first, hindex, hle, htry⟩
  · intro hcodePoints
    refine ⟨_, takes_of_cut hview hvalid ?_, htakes⟩
    show some _ = _
    rw [hcodePoints, View.text, Window.chopThrough?_codePoints]

/-- An arrow that is read first where its head carries an accent, and so is found further in front
than the place where it can be chopped through, and a view that is looked for in itself. -/
theorem searches_agree_accented_arrow :
    let source : Text := ['(', 'a', '-', '>', '\u0301', 'b', '-', '>', 'c', ')']
    let view := View.ofWindow ⟨source, 1, 8⟩
    let s : Session := { settings := {}, views := [view] }
    let arrow : Text := ['-', '>']
    s.views[0]? = some view ∧ view.Valid ∧
      s.operandText? (.text arrow) = some arrow ∧ s.operandText? (.view 0) = some view.text ∧
      (s.step (.query 0 (.indexOf (.text arrow)))).result = .ok (intAnswer 1) ∧
      (s.step (.query 0 (.endsWith (.text arrow)))).result = .ok (boolAnswer false) ∧
      s.Takes 0 (.throughText (.text arrow)) ⟨⟨source, 1, 1⟩, ⟨source, 4, 5⟩⟩ ∧
      (∃ first, 1 ≤ first ∧ s.Takes 0 (.tryThrough arrow) (.front view.window first 2)) ∧
      (s.step (.query 0 (.startsWith (.view 0)))).result = .ok (boolAnswer true) ∧
      s.Takes 0 (.throughText (.view 0)) ⟨⟨source, 1, 0⟩, ⟨source, 9, 0⟩⟩ := by
  intro source view s arrow
  have hview : s.views[0]? = some view := rfl
  have hvalid : view.Valid := View.valid_ofWindow (by decide)
  have harrow : s.operandText? (.text arrow) = some arrow := rfl
  have hself : s.operandText? (.view 0) = some view.text := rfl
  obtain ⟨index, hindex, -, hoffset, -, hends, hchop, -, -, htry, -⟩ :=
    searches_agree hview hvalid harrow
  obtain ⟨start, hstart, -, -, hstarts, -, hall, -⟩ := searches_agree hview hvalid hself
  have hmade : (s.step (.chop 0 (.tryThrough arrow))).result =
      .ok (.found (.view 1 ⟨source, 1, 5⟩)) := by
    rfl
  obtain rfl : index = some 1 := (hindex 1).2 (by decide)
  obtain rfl : start = some 0 := (hstart 0).2 (by decide)
  obtain ⟨offset, first, hfound, hle, htakes⟩ := htry _ hmade
  obtain rfl : 1 = offset := Option.some.inj hfound
  exact ⟨hview, hvalid, harrow, hself, hoffset, hends, (hchop 1 rfl).1, ⟨first, hle, htakes⟩,
    hstarts, (hall 0 rfl).1⟩

end Session

end TextCursor
