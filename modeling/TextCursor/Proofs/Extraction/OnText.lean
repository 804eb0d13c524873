import TextCursor.Extraction.Extractor
import TextCursor.Proofs.Except
import TextCursor.Proofs.Extraction.Chopper

/-!
# Extraction as a function on texts

An extractor moves a view along a line and does not put it back when it fails. `Extractor.onText` is
the same without a view: each literal and each built-in chopper makes of the text that is left what
it leaves of it in turn, and a failure ends the matter. What the extractor answers, and the text of
the view that it leaves, are those of this function (`Extractor.run_eq_onText`). One chopper is
`Builtin.chopper_readsAs`, one literal `Window.text_chopThroughText_rest`, and the fields follow by
induction.
-/

namespace TextCursor

/-- The text behind the first place where `needle` stands. Nothing is left where it stands
nowhere. -/
def Text.behind (needle : Text) : Text → Text
  | [] => []
  | c :: rest =>
      if needle.isPrefixOf (c :: rest) then (c :: rest).drop needle.length
      else behind needle rest

/-- The text behind the first place is the one behind the offset of that place. -/
theorem Text.behind_eq (needle text : Text) :
    behind needle text =
      match indexOf? needle text with
      | some offset => text.drop (offset + needle.length)
      | none => [] := by
  induction text with
  | nil =>
      rw [behind, indexOf?]
      split <;> simp
  | cons c rest ih =>
      rw [behind, indexOf?]
      split
      · show _ = (c :: rest).drop (0 + needle.length)
        rw [Nat.zero_add]
      · rw [ih]
        cases indexOf? needle rest with
        | none => rfl
        | some offset =>
            show _ = (c :: rest).drop (offset + 1 + needle.length)
            rw [Nat.add_right_comm, List.drop_succ_cons]

/-- What is left of a window once everything up to a literal has been chopped off shows the text
behind the literal. -/
theorem Window.text_chopThroughText_rest (w : Window) (needle : Text) :
    (w.chopThroughText needle).rest.text = Text.behind needle w.text := by
  rw [Text.behind_eq, chopThroughText]
  cases Text.indexOf? needle w.text with
  | some offset => exact w.text_drop _
  | none =>
      show (w.drop (w.size + 0)).text = []
      rw [text_drop, List.drop_eq_nil_iff]
      exact List.length_take_le _ _

/-- The built-in choppers. -/
inductive Builtin where
  | int
  | float
  | word
  | optional
  deriving DecidableEq

namespace Builtin

/-- The chopper itself. -/
def chopper : Builtin → Chopper ChopFault Datum
  | int => .int
  | float => .float
  | word => .word
  | optional => .optional

/-- What a chopper of numbers makes of a text: the value of the numeral in front, and the text
behind it. Where there is none, or it has too many digits, all of the text is left. -/
def numberOnText (name : Text) (kind : NumberKind) (segmenter : Segmenter) (text : Text) :
    Except ChopFault Datum × Text :=
  match Numeral.scan kind (segmenter.clusters text) with
  | none => (.error (.refused name text), text)
  | some numeral =>
      match Numeral.read kind numeral with
      | .ok value => (.ok value, text.drop numeral.length)
      | .error fault => (.error fault, text)

/-- What the chopper makes of a text: a value or a fault, and the text that is left. -/
def onText (segmenter : Segmenter) (text : Text) : Builtin → Except ChopFault Datum × Text
  | int => numberOnText (Text.lit "int") .whole segmenter text
  | float => numberOnText (Text.lit "float") .fractional segmenter text
  | word =>
      let clusters := segmenter.clusters text
      (.ok (.text (clusters.takeWhile Cluster.isWordPart).flatten),
        (clusters.dropWhile Cluster.isWordPart).flatten)
  | optional =>
      match segmenter.clusters text with
      | [] => (.ok (.text []), text)
      | first :: later =>
          if Cluster.isBlank first then (.ok (.text []), text)
          else (.ok (.text first), later.flatten)

end Builtin

/-- What an operation on a view comes to, told by texts: its result, and the text that the view
shows afterwards. The view still ends where it did. -/
structure Outcome.ReadsAs {ε α : Type} (outcome : Outcome View ε α) (view : View)
    (expected : Except ε α × Text) : Prop where
  result : outcome.result = expected.1
  text : outcome.state.text = expected.2
  valid : outcome.state.Valid
  source : outcome.state.window.source = view.window.source
  stop : outcome.state.window.stop = view.window.stop

namespace Outcome

variable {ε α β : Type} {view : View}

/-- What reads as a text of a view reads so for every view that ends at the same place. -/
theorem ReadsAs.of_stop_eq {front : View} {outcome : Outcome View ε α}
    {expected : Except ε α × Text} (h : outcome.ReadsAs front expected)
    (hsource : front.window.source = view.window.source)
    (hstop : front.window.stop = view.window.stop) : outcome.ReadsAs view expected :=
  ⟨h.result, h.text, h.valid, h.source.trans hsource, h.stop.trans hstop⟩

/-- A result seen as another value leaves the text that it did. -/
theorem ReadsAs.map {outcome : Outcome View ε α} {expected : Except ε α × Text}
    (h : outcome.ReadsAs view expected) (f : α → β) :
    (outcome.map f).ReadsAs view (expected.1.map f, expected.2) where
  result := congrArg (Except.map f) h.result
  text := h.text
  valid := h.valid
  source := h.source
  stop := h.stop

/-- After a result, what follows reads the text that was left. -/
theorem ReadsAs.andThen {outcome : Outcome View ε α} {value : α} {left : Text}
    {next : α → View → Outcome View ε β} {expected : Except ε β × Text}
    (h : outcome.ReadsAs view (.ok value, left))
    (hnext : (next value outcome.state).ReadsAs outcome.state expected) :
    (outcome.andThen next).ReadsAs view expected := by
  have hbehind := hnext.of_stop_eq h.source h.stop
  unfold Outcome.andThen
  rw [h.result]
  exact ⟨hbehind.result, hbehind.text, hbehind.valid, hbehind.source, hbehind.stop⟩

/-- After a fault nothing follows. -/
theorem ReadsAs.andThen_error {outcome : Outcome View ε α} {fault : ε} {left : Text}
    (h : outcome.ReadsAs view (.error fault, left)) (next : α → View → Outcome View ε β) :
    (outcome.andThen next).ReadsAs view (.error fault, left) := by
  unfold Outcome.andThen
  rw [h.result]
  exact ⟨rfl, h.text, h.valid, h.source, h.stop⟩

/-- Chopping off everything up to a literal leaves the text behind the literal. -/
theorem readsAs_chopThroughText (hvalid : view.Valid) (value : α) (literal : Text) :
    (Outcome.done value (view.follow (view.window.chopThroughText literal)) :
      Outcome View ε α).ReadsAs view (.ok value, Text.behind literal view.text) := by
  have hconserves := Window.chopThroughText_conserves hvalid.fits literal
  exact ⟨rfl, view.window.text_chopThroughText_rest literal, hvalid.move hconserves.inside.rest,
    hconserves.inside.rest.1, hconserves.rest_stop⟩

/-- An operation that only memoizes a view leaves all of its text. -/
theorem readsAs_memoize (hvalid : view.Valid) (settings : Settings)
    (result : Except ChopFault α) (notices : List Notice) :
    (⟨result, view.memoize settings.segmenter, notices⟩ :
      Outcome View ChopFault α).ReadsAs view (result, view.text) :=
  ⟨rfl, rfl, hvalid.memoize _, rfl, rfl⟩

/-- An operation that moves a view behind the front of its text leaves the rest of it. -/
theorem readsAs_drop (hvalid : view.Valid) (settings : Settings) (value : α) {front rest : Text}
    (htext : view.text = front ++ rest) :
    (Outcome.done value ((view.memoize settings.segmenter).move (view.window.drop front.length)) :
      Outcome View ChopFault α).ReadsAs view (.ok value, rest) := by
  obtain ⟨hbehind, hrest⟩ := (hvalid.memoize settings.segmenter).drop htext
  exact ⟨rfl, hrest, hbehind, rfl, view.window.stop_drop (hvalid.length_le htext)⟩

end Outcome

namespace Builtin

variable {view : View}

/-- The clusters of a text in two parts, put together again, are the text. -/
theorem flatten_append_of_clusters {segmenter : Segmenter} {text : Text} {front back : List Text}
    (h : segmenter.clusters text = front ++ back) : text = front.flatten ++ back.flatten := by
  rw [← List.flatten_append, ← h]
  exact (ClusterRule.flatten_clusters _ _).symm

/-- A chopper of numbers reads as its function on texts. -/
theorem number_readsAs (hvalid : view.Valid) (settings : Settings) (name : Text)
    (kind : NumberKind) :
    (Chopper.number name kind settings view).ReadsAs view
      (numberOnText name kind settings.segmenter view.text) := by
  have hclusters := hvalid.clusters_memoize settings.segmenter
  unfold numberOnText
  cases hscan : Numeral.scan kind (settings.segmenter.clusters view.text) with
  | none =>
      have hchop : (view.memoize settings.segmenter).chopNumber settings.segmenter kind =
          .ok none := by
        simp only [View.chopNumber, Window.readNumber, hclusters, hscan, Except.map,
          Option.map_none]
      simp only [Chopper.number, hchop]
      exact Outcome.readsAs_memoize hvalid settings _ _
  | some numeral =>
      cases hread : Numeral.read kind numeral with
      | error fault =>
          have hchop : (view.memoize settings.segmenter).chopNumber settings.segmenter kind =
              .error fault := by
            simp only [View.chopNumber, Window.readNumber, hclusters, hscan, hread, Except.map]
          simp only [Chopper.number, hchop, hread]
          exact Outcome.readsAs_memoize hvalid settings _ _
      | ok value =>
          obtain ⟨front, back, hparts, rfl⟩ := Numeral.exists_append_of_scan hscan
          have htext := flatten_append_of_clusters hparts
          have hrest : view.text.drop front.flatten.length = back.flatten := by
            rw [htext, List.drop_left]
          simp only [Chopper.number_of_scan hvalid name hscan hread, hread, hrest]
          exact Outcome.readsAs_drop hvalid settings value htext

/-- The chopper of words reads as its function on texts. -/
theorem word_readsAs (hvalid : view.Valid) (settings : Settings) :
    (Chopper.word settings view).ReadsAs view (word.onText settings.segmenter view.text) := by
  have hparts : settings.segmenter.clusters view.text = _ ++ _ :=
    (List.takeWhile_append_dropWhile (p := Cluster.isWordPart)).symm
  rw [Chopper.word, Chopper.leading_eq hvalid]
  exact Outcome.readsAs_drop hvalid settings _ (flatten_append_of_clusters hparts)

/-- The chopper of an optional character reads as its function on texts. -/
theorem optional_readsAs (hvalid : view.Valid) (settings : Settings) :
    (Chopper.optional settings view).ReadsAs view
      (optional.onText settings.segmenter view.text) := by
  simp only [Chopper.optional, onText, hvalid.clusters_memoize]
  cases hparts : settings.segmenter.clusters view.text with
  | nil => exact Outcome.readsAs_memoize hvalid settings _ _
  | cons first later =>
      have hfirst : Window.clusterAt? (first :: later) 0 = some first := rfl
      simp only [hfirst]
      by_cases hblank : Cluster.isBlank first
      · simp only [hblank, if_true]
        exact Outcome.readsAs_memoize hvalid settings _ _
      · have hfront : settings.segmenter.clusters (view.memoize settings.segmenter).text =
            [first] ++ later := hparts
        have htext : view.text = first ++ later.flatten := by
          have hflatten := flatten_append_of_clusters hfront
          rwa [List.flatten_singleton] at hflatten
        have hcut : (view.memoize settings.segmenter).window.chopFirst (first :: later) 1 =
            .front (view.memoize settings.segmenter).window (extent [first]) 0 := rfl
        simp only [hblank, if_false, Bool.false_eq_true, hcut,
          Chopper.removedText_front (hvalid.memoize settings.segmenter) hfront,
          List.flatten_singleton]
        exact Outcome.readsAs_drop hvalid settings _ htext

/-- A built-in chopper reads as its function on texts. -/
theorem chopper_readsAs (hvalid : view.Valid) (settings : Settings) (builtin : Builtin) :
    (builtin.chopper settings view).ReadsAs view
      (builtin.onText settings.segmenter view.text) := by
  cases builtin with
  | int => exact number_readsAs hvalid settings _ _
  | float => exact number_readsAs hvalid settings _ _
  | word => exact word_readsAs hvalid settings
  | optional => exact optional_readsAs hvalid settings

/-- A numeral that has been scanned is not refused, only its number of digits may be. -/
theorem read_ne_refused (kind : NumberKind) (numeral name remainder : Text) :
    Numeral.read kind numeral ≠ .error (.refused name remainder) := by
  cases kind with
  | whole =>
      unfold Numeral.read
      cases Numeral.toInt? numeral <;> simp
  | fractional => simp [Numeral.read]

/-- A chopper that is refused a text gives as the remainder what is left of the text, all of it. -/
theorem remainder_of_onText {segmenter : Segmenter} {text left name remainder : Text}
    {builtin : Builtin}
    (h : builtin.onText segmenter text = (.error (.refused name remainder), left)) :
    remainder = left := by
  have hnumber : ∀ (own : Text) (kind : NumberKind),
      numberOnText own kind segmenter text = (.error (.refused name remainder), left) →
        remainder = left := by
    intro own kind h
    unfold numberOnText at h
    split at h
    · cases h
      rfl
    · split at h
      · cases h
      · next fault hread =>
          cases h
          exact absurd hread (read_ne_refused kind _ name remainder)
  cases builtin with
  | int => exact hnumber _ _ h
  | float => exact hnumber _ _ h
  | word => cases h
  | optional =>
      simp only [onText] at h
      split at h
      · cases h
      · split at h <;> cases h

end Builtin

namespace Extractor

/-- What an extractor makes of a text: the values, or the first fault, and the text that is left. It
is given by its first literal and by its choppers, each with the literal behind it. -/
def onText (segmenter : Segmenter) :
    Text → List (Builtin × Text) → Text → Except ChopFault (List Datum) × Text
  | literal, [], text => (.ok [], Text.behind literal text)
  | literal, (builtin, next) :: later, text =>
      match builtin.onText segmenter (Text.behind literal text) with
      | (.error fault, left) => (.error fault, left)
      | (.ok value, left) =>
          let following := onText segmenter next later left
          (following.1.map (value :: ·), following.2)

/-- Reading the fields off a view reads as the function on texts. -/
theorem runFields_readsAs (settings : Settings) (literal : Text) (fields : List (Builtin × Text))
    {view : View} (hvalid : view.Valid) :
    (runFields settings ((literal :: fields.map (·.2)).getLast?.getD [])
        ((literal :: fields.map (·.2)).zip (fields.map (·.1.chopper))) view).ReadsAs view
      (onText settings.segmenter literal fields view.text) := by
  induction fields generalizing literal view with
  | nil => exact Outcome.readsAs_chopThroughText hvalid _ literal
  | cons field later ih =>
      obtain ⟨builtin, next⟩ := field
      have hfront := Outcome.readsAs_chopThroughText (ε := ChopFault) hvalid () literal
      have hchop := Builtin.chopper_readsAs hfront.valid settings builtin
      rw [hfront.text] at hchop
      have hchop := hchop.of_stop_eq hfront.source hfront.stop
      rw [List.map_cons, List.map_cons, List.zip_cons_cons, List.getLast?_cons_cons, runFields,
        onText]
      -- the text that the chopper leaves is what the fields that follow are read from
      cases hread : builtin.onText settings.segmenter (Text.behind literal view.text) with
      | mk result left =>
          rw [hread] at hchop
          cases result with
          | error fault => exact hchop.andThen_error _
          | ok value =>
              have hlater := (ih next hchop.valid).map (value :: ·)
              rw [hchop.text] at hlater
              exact hchop.andThen hlater

/-- There are as many values as there are choppers. -/
theorem length_of_onText {segmenter : Segmenter} {literal text : Text}
    {fields : List (Builtin × Text)} {values : List Datum}
    (h : (onText segmenter literal fields text).1 = .ok values) :
    values.length = fields.length := by
  induction fields generalizing literal text values with
  | nil =>
      cases h
      rfl
  | cons field later ih =>
      obtain ⟨builtin, next⟩ := field
      rw [onText] at h
      split at h
      · cases h
      · obtain ⟨following, hfollowing, rfl⟩ := Except.map_eq_ok_iff.1 h
        rw [List.length_cons, List.length_cons, ih hfollowing]

/-- A chopper that is refused a text gives as the remainder what is left of the text. -/
theorem remainder_of_onText {segmenter : Segmenter} {literal text : Text}
    {fields : List (Builtin × Text)} {name remainder : Text}
    (h : (onText segmenter literal fields text).1 = .error (.refused name remainder)) :
    remainder = (onText segmenter literal fields text).2 := by
  induction fields generalizing literal text with
  | nil => cases h
  | cons field later ih =>
      obtain ⟨builtin, next⟩ := field
      rw [onText] at h ⊢
      split at h
      · next fault left hread =>
          cases h
          exact Builtin.remainder_of_onText hread
      · next value left hread =>
          exact ih (Except.map_eq_error_iff.1 h)

/-- Behind a fault, no further choppers and literals play a part. -/
theorem onText_append_of_error {segmenter : Segmenter} {literal text : Text}
    {fields : List (Builtin × Text)} {fault : ChopFault}
    (h : (onText segmenter literal fields text).1 = .error fault) (more : List (Builtin × Text)) :
    onText segmenter literal (fields ++ more) text = onText segmenter literal fields text := by
  induction fields generalizing literal text with
  | nil => cases h
  | cons field later ih =>
      obtain ⟨builtin, next⟩ := field
      rw [List.cons_append, onText, onText]
      rw [onText] at h
      split at h
      · rfl
      · rw [ih (Except.map_eq_error_iff.1 h)]

/-- An extractor is a function on the text that is left. For all literals, all built-in choppers
between them and every view, it can be built and comes to what the function on texts comes to:
the same values, one for each chopper, or the same first fault, behind which no chopper and no
literal plays a part. The text of the view afterwards is what that function leaves, which is the
remainder that a refused chopper tells of, and the window ends where it did. A text gives what a
view of it gives. -/
theorem run_eq_onText (first : Text) (fields : List (Builtin × Text)) :
    ∃ extractor,
      build (first :: fields.map (·.2)) (fields.map fun field => .chopper field.1.chopper) =
        .ok extractor ∧
      ∀ (settings : Settings) (view : View), view.Valid →
        let outcome := extractor.run settings view
        let expected := onText settings.segmenter first fields view.text
        outcome.result = expected.1 ∧ outcome.state.text = expected.2 ∧
          outcome.state.window.source = view.window.source ∧
          outcome.state.window.stop = view.window.stop ∧
          (∀ values, outcome.result = .ok values → values.length = fields.length) ∧
          (∀ name remainder, outcome.result = .error (.refused name remainder) →
            remainder = outcome.state.text) ∧
          (∀ fault, outcome.result = .error fault → ∀ more,
            onText settings.segmenter first (fields ++ more) view.text = expected) ∧
          (extractor.run settings (.ofText view.text)).result = outcome.result := by
  have hbuild : build (first :: fields.map (·.2))
      (fields.map fun field => .chopper field.1.chopper) =
        .ok ⟨(first :: fields.map (·.2)).zip (fields.map (·.1.chopper)),
          (first :: fields.map (·.2)).getLast?.getD []⟩ := by
    rw [← build_choppers (by simp), List.map_map]
    rfl
  refine ⟨_, hbuild, ?_⟩
  intro settings view hvalid outcome expected
  have hview : outcome.ReadsAs view expected := runFields_readsAs settings first fields hvalid
  have hline := runFields_readsAs settings first fields (View.valid_ofText view.text)
  have htext : (View.ofText view.text).text = view.text := Window.text_ofText _
  rw [htext] at hline
  refine ⟨hview.result, hview.text, hview.source, hview.stop, ?_, ?_, ?_, ?_⟩
  · intro values hvalues
    exact length_of_onText (hview.result.symm.trans hvalues)
  · intro name remainder hrefused
    rw [hview.text]
    exact remainder_of_onText (hview.result.symm.trans hrefused)
  · intro fault hfault more
    exact onText_append_of_error (hview.result.symm.trans hfault) more
  · exact hline.result.trans hview.result.symm

/-- An integer, a letter with a mark and a number whose literal stands behind the end of the window,
and the same line without that number. -/
theorem run_eq_onText_missing_literal :
    let source := ['a', 'x', '=', '-', '1', '2', ',', 'e', '\u0301', 'y', '#', '7']
    let view := View.ofWindow ⟨source, 0, 10⟩
    let fields := [(Builtin.int, [',']), (.optional, [])]
    view.Valid ∧
      onText .graphemes ['x', '='] fields view.text =
        (.ok [.int (-12), .text ['e', '\u0301']], ['y']) ∧
      onText .graphemes ['x', '='] [(.int, [',']), (.optional, ['#']), (.float, [])] view.text =
        (.error (.refused (Text.lit "float") []), []) ∧
      (∃ extractor,
        build [['x', '='], [','], []] [.chopper Chopper.int, .chopper Chopper.optional] =
          .ok extractor ∧
        (extractor.run {} view).result = .ok [.int (-12), .text ['e', '\u0301']] ∧
        (extractor.run {} view).state.text = ['y'] ∧
        [Datum.int (-12), .text ['e', '\u0301']].length = fields.length ∧
        (extractor.run {} (.ofText view.text)).result =
          .ok [.int (-12), .text ['e', '\u0301']]) ∧
      ∃ extractor, build [['x', '='], [','], ['#'], []]
          [.chopper Chopper.int, .chopper Chopper.optional, .chopper Chopper.float] =
          .ok extractor ∧
        (extractor.run {} view).result = .error (.refused (Text.lit "float") []) ∧
        [] = (extractor.run {} view).state.text ∧
        (extractor.run {} view).state.window.stop = 10 := by
  intro source view fields
  have hvalid : view.Valid := View.valid_ofWindow (by decide)
  have hread : onText .graphemes ['x', '='] fields view.text =
      (.ok [.int (-12), .text ['e', '\u0301']], ['y']) := rfl
  have hmissing : onText .graphemes ['x', '=']
      [(.int, [',']), (.optional, ['#']), (.float, [])] view.text =
        (.error (.refused (Text.lit "float") []), []) := rfl
  refine ⟨hvalid, hread, hmissing, ?_, ?_⟩
  · obtain ⟨extractor, hbuild, hrun⟩ := run_eq_onText ['x', '='] fields
    obtain ⟨hresult, htext, -, -, hlength, -, -, hline⟩ := hrun {} view hvalid
    have hvalues := hresult.trans (congrArg Prod.fst hread)
    exact ⟨extractor, hbuild, hvalues, htext.trans (congrArg Prod.snd hread), hlength _ hvalues,
      hline.trans hvalues⟩
  · obtain ⟨extractor, hbuild, hrun⟩ :=
      run_eq_onText ['x', '='] [(.int, [',']), (.optional, ['#']), (.float, [])]
    obtain ⟨hresult, -, -, hstop, -, hremainder, -, -⟩ := hrun {} view hvalid
    have hrefused := hresult.trans (congrArg Prod.fst hmissing)
    exact ⟨extractor, hbuild, hrefused, hremainder _ _ hrefused, hstop⟩

end Extractor

end TextCursor
