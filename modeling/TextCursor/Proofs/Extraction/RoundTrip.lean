import Mathlib.Data.List.TakeWhile
import TextCursor.Extraction.Extractor
import TextCursor.Proofs.Extraction.Chopper
import TextCursor.Proofs.Number.Integer
import TextCursor.Proofs.Outcome

/-!
# Extraction undoes rendering

A line is rendered from literals with integers and words between them. The extractor with the same
literals and the choppers of integers and words gives the values back and uses the line up
(`Extractor.run_render`), if what stands behind each value lets its chopper stop there
(`Slot.EndsBefore`). For one value that is `Slot.reads`, for one field `Extractor.runFields_cons`;
the run over all of them is an induction on the values that are still to come.
-/

namespace TextCursor

open Unicode

/-- A value between two literals of a rendered line: an integer or a word. -/
inductive Slot where
  | int (value : Int)
  | word (text : Text)
  deriving DecidableEq

namespace Slot

/-- The value as it stands in the line. -/
def text : Slot → Text
  | int value => Text.ofInt value
  | word text => text

/-- The value as a chopper answers it. -/
def datum : Slot → Datum
  | int value => .int value
  | word text => .text text

/-- The chopper that reads the value. -/
def chopper : Slot → Chopper ChopFault Datum
  | int _ => .int
  | word _ => .word

/-- The value can be read back at all: an integer has no more digits than the limit, and a word has
no blank and does not end with a prepended character. -/
def IsReadable : Slot → Prop
  | int value => (Text.ofNat value.natAbs).length ≤ Numeral.digitLimit
  | word text => Segmenter.Unblank text ∧ Segmenter.Unprepended text

/-- A word ends at the end of the line, or at a blank character to which nothing clings. -/
def WordEndsBefore : Text → Prop
  | [] => True
  | b :: later => isBlank b ∧ ((BreakClass.ofChar b).standsAlone ∨ Segmenter.Unclinging later)

/-- The chopper of the value stops in front of this rest of the line: behind an integer there is
neither another digit nor anything that clings to the last one, behind a word there is a blank. -/
def EndsBefore (slot : Slot) (rest : Text) : Prop :=
  match slot with
  | int _ => Numeral.Undigited rest ∧ Segmenter.Unclinging rest
  | word _ => WordEndsBefore rest

/-- Whether a value can be read back is decided on its text. -/
instance (slot : Slot) : Decidable slot.IsReadable :=
  match slot with
  | int _ => inferInstanceAs (Decidable (_ ≤ _))
  | word _ => inferInstanceAs (Decidable (_ ∧ _))

/-- Where a value ends is decided on the first two characters behind it. -/
instance (slot : Slot) (rest : Text) : Decidable (slot.EndsBefore rest) :=
  match slot, rest with
  | int _, rest =>
      inferInstanceAs (Decidable (Numeral.Undigited rest ∧ Segmenter.Unclinging rest))
  | word _, [] => inferInstanceAs (Decidable True)
  | word _, _ :: later => inferInstanceAs (Decidable (_ ∧ (_ ∨ Segmenter.Unclinging later)))

/-- The text of values, each with the literal behind it. -/
def render : List (Slot × Text) → Text
  | [] => []
  | (slot, literal) :: later => slot.text ++ (literal ++ render later)

/-- Each value can be read back and ends before the rest of the rendered line. -/
def Separated : List (Slot × Text) → Prop
  | [] => True
  | (slot, literal) :: later =>
      (slot.IsReadable ∧ slot.EndsBefore (literal ++ render later)) ∧ Separated later

/-- Whether values are separated is decided value by value. -/
instance decidableSeparated : (slots : List (Slot × Text)) → Decidable (Separated slots)
  | [] => inferInstanceAs (Decidable True)
  | (slot, literal) :: later =>
      have := decidableSeparated later
      inferInstanceAs (Decidable ((slot.IsReadable ∧ slot.EndsBefore (literal ++ render later)) ∧
        Separated later))

end Slot

/-- The chopper takes `taken` off every valid view on which `rest` stands behind it, and answers
`value`. -/
def Chopper.Reads {ε α : Type} (chopper : Chopper ε α) (settings : Settings) (taken rest : Text)
    (value : α) : Prop :=
  ∀ view : View, view.Valid → view.text = taken ++ rest →
    chopper settings view =
      .done value ((view.memoize settings.segmenter).move (view.window.drop taken.length))

namespace Slot

variable {settings : Settings} {rest : Text}

/-- The chopper of integers reads back the decimal text of an integer. -/
theorem int_reads (hsegmenter : settings.segmenter = .graphemes) {n : Int}
    (hlimit : (int n).IsReadable) (hend : (int n).EndsBefore rest) :
    Chopper.int.Reads settings (Text.ofInt n) rest (.int n) := by
  intro view hvalid htext
  have hscan : Numeral.scan .whole (settings.segmenter.clusters view.text) =
      some (Text.ofInt n) := by
    rw [hsegmenter, htext]
    exact Numeral.scan_ofInt n hend.1 hend.2
  exact Chopper.number_of_scan hvalid _ hscan (Numeral.read_ofInt hlimit)

/-- The leading clusters of a word and what stands behind it that may stand in a word are those of
the word. -/
theorem takeWhile_isWordPart {t : Text} (hword : (word t).IsReadable)
    (hend : (word t).EndsBefore rest) :
    (Segmenter.graphemes.clusters (t ++ rest)).takeWhile Cluster.isWordPart =
      Segmenter.graphemes.clusters t := by
  have hparts := Segmenter.isWordPart_of_mem_clusters .graphemes hword.1
  cases rest with
  | nil => rw [List.append_nil, List.takeWhile_eq_self_iff.2 hparts]
  | cons b later =>
      obtain ⟨hblank, hseam⟩ := hend
      have hhead := Segmenter.isBlank_of_mem_head hblank hseam
      rw [Segmenter.clusters_append_blank hword.1 hword.2 hblank,
        List.takeWhile_append_of_pos hparts]
      cases hclusters : Segmenter.graphemes.clusters (b :: later) with
      | nil => simp
      | cons cluster others =>
          -- the blank that ends the word begins a cluster of its own, which stops the chopper
          rw [hclusters] at hhead
          have hstop : Cluster.isWordPart cluster = false := by
            simp [Cluster.isWordPart, hhead cluster rfl]
          simp [hstop]

/-- The chopper of words reads back a word, also an empty one. -/
theorem word_reads (hsegmenter : settings.segmenter = .graphemes) {t : Text}
    (hword : (word t).IsReadable) (hend : (word t).EndsBefore rest) :
    (Chopper.word (ε := ChopFault)).Reads settings t rest (.text t) := by
  intro view hvalid htext
  have htaken : ((settings.segmenter.clusters view.text).takeWhile Cluster.isWordPart).flatten =
      t := by
    rw [hsegmenter, htext, takeWhile_isWordPart hword hend]
    exact ClusterRule.flatten_clusters _ t
  have hleading := Chopper.leading_eq (ε := ChopFault) hvalid Cluster.isWordPart settings
  simp only [htaken] at hleading
  exact hleading

/-- The chopper of a value reads it back in front of every text that it ends before. -/
theorem reads (hsegmenter : settings.segmenter = .graphemes) {slot : Slot}
    (hreadable : slot.IsReadable) (hend : slot.EndsBefore rest) :
    slot.chopper.Reads settings slot.text rest slot.datum := by
  cases slot with
  | int value => exact int_reads hsegmenter hreadable hend
  | word text => exact word_reads hsegmenter hreadable hend

end Slot

namespace Extractor

variable {settings : Settings}

/-- A field whose value can be read is used up: the view stands behind its literal and its value,
and the fields that follow are read off there. -/
theorem runFields_cons {ε α : Type} {chopper : Chopper ε α} {literal taken rest : Text} {value : α}
    (hreads : chopper.Reads settings taken rest value) {view : View} (hvalid : view.Valid)
    (htext : view.text = literal ++ (taken ++ rest)) :
    ∃ behind : View, behind.Valid ∧ behind.text = rest ∧
      behind.window = view.window.drop (literal ++ taken).length ∧
      ∀ tail later, runFields settings tail ((literal, chopper) :: later) view =
        (runFields settings tail later behind).map (value :: ·) := by
  obtain ⟨hfront, hfrontText⟩ := hvalid.drop htext
  obtain ⟨hbehind, hbehindText⟩ := (hfront.memoize settings.segmenter).drop hfrontText
  refine ⟨_, hbehind, hbehindText, ?_, ?_⟩
  · rw [List.length_append, ← Window.drop_drop]
    rfl
  · intro tail later
    rw [runFields, View.follow, Window.chopThroughText_rest htext, hreads _ hfront hfrontText,
      Outcome.done_andThen]
    rfl

/-- The fields and the tail of a rendered text are read off a view that shows it. -/
theorem runFields_render (hsegmenter : settings.segmenter = .graphemes)
    {slots : List (Slot × Text)} (hslots : Slot.Separated slots) (literal : Text) {view : View}
    (hvalid : view.Valid) (htext : view.text = literal ++ Slot.render slots) :
    ∃ behind,
      runFields settings ((literal :: slots.map (·.2)).getLast?.getD [])
          ((literal :: slots.map (·.2)).zip (slots.map (·.1.chopper))) view =
        .done (slots.map (·.1.datum)) behind ∧
      behind.window = view.window.drop (literal ++ Slot.render slots).length := by
  induction slots generalizing literal view with
  | nil =>
      refine ⟨_, rfl, ?_⟩
      rw [Slot.render, List.append_nil]
      exact Window.chopThroughText_rest htext
  | cons pair later ih =>
      obtain ⟨slot, next⟩ := pair
      obtain ⟨⟨hreadable, hend⟩, hlater⟩ := hslots
      -- behind the first value, `next` is the literal in front of the values that are left
      obtain ⟨between, hbetween, hbetweenText, hbetweenWindow, hfield⟩ :=
        runFields_cons (Slot.reads hsegmenter hreadable hend) hvalid htext
      obtain ⟨behind, hrun, hwindow⟩ := ih hlater next hbetween hbetweenText
      refine ⟨behind, ?_, ?_⟩
      · rw [List.map_cons, List.map_cons, List.zip_cons_cons, List.getLast?_cons_cons, hfield, hrun]
        rfl
      · rw [hwindow, hbetweenWindow, Window.drop_drop, ← List.length_append, Slot.render,
          List.append_assoc]

/-- Extraction undoes rendering. Where each value of a rendered line can be read back and ends
before the rest of the line, the extractor with the literals of the line and the choppers of the
values can be built, gives the values back, and leaves a view of the line empty at its end. -/
theorem run_render {settings : Settings} (hsegmenter : settings.segmenter = .graphemes)
    (first : Text) {slots : List (Slot × Text)} (hslots : Slot.Separated slots) :
    ∃ extractor,
      build (first :: slots.map (·.2)) (slots.map fun slot => .chopper slot.1.chopper) =
        .ok extractor ∧
      (extractor.run settings (.ofText (first ++ Slot.render slots))).result =
        .ok (slots.map (·.1.datum)) ∧
      ∀ view : View, view.Valid → view.text = first ++ Slot.render slots →
        ∃ behind, extractor.run settings view = .done (slots.map (·.1.datum)) behind ∧
          behind.window = ⟨view.window.source, view.window.stop, 0⟩ := by
  have hrun : ∀ view : View, view.Valid → view.text = first ++ Slot.render slots →
      ∃ behind, runFields settings ((first :: slots.map (·.2)).getLast?.getD [])
          ((first :: slots.map (·.2)).zip (slots.map (·.1.chopper))) view =
        .done (slots.map (·.1.datum)) behind ∧
          behind.window = ⟨view.window.source, view.window.stop, 0⟩ := by
    intro view hvalid htext
    obtain ⟨behind, hfields, hwindow⟩ := runFields_render hsegmenter hslots first hvalid htext
    refine ⟨behind, hfields, ?_⟩
    rw [hwindow, ← htext, View.text, hvalid.fits.length_text, Window.drop, Nat.sub_self]
    rfl
  have hbuild : build (first :: slots.map (·.2)) (slots.map fun slot => .chopper slot.1.chopper) =
      .ok ⟨(first :: slots.map (·.2)).zip (slots.map (·.1.chopper)),
        (first :: slots.map (·.2)).getLast?.getD []⟩ := by
    rw [← build_choppers (by simp), List.map_map]
    rfl
  obtain ⟨behind, hline, -⟩ := hrun _ (View.valid_ofText _) (Window.text_ofText _)
  exact ⟨_, hbuild, congrArg Outcome.result hline, hrun⟩

/-- A negative number, a word with a mark in front of a line end, and an empty word, read off a line
in the middle of a text. -/
theorem run_render_number_and_words :
    let slots := [(Slot.int (-120), [',', ' ']), (.word ['e', '\u0301'], ['\r', '\n']),
      (.word [], [' ', '.'])]
    let line := ['x', '=', '-', '1', '2', '0', ',', ' ', 'e', '\u0301', '\r', '\n', ' ', '.']
    let view := View.ofWindow ⟨'>' :: line ++ ['<'], 1, 14⟩
    Slot.Separated slots ∧ view.Valid ∧ view.text = line ∧
      ∃ extractor,
        build [['x', '='], [',', ' '], ['\r', '\n'], [' ', '.']]
            [.chopper Chopper.int, .chopper Chopper.word, .chopper Chopper.word] =
          .ok extractor ∧
        (extractor.run {} (.ofText line)).result =
          .ok [.int (-120), .text ['e', '\u0301'], .text []] ∧
        (extractor.run {} view).state.window = ⟨'>' :: line ++ ['<'], 15, 0⟩ := by
  intro slots line view
  have hslots : Slot.Separated slots := by decide
  have hvalid : view.Valid := View.valid_ofWindow (by decide)
  obtain ⟨extractor, hbuild, hline, hview⟩ :=
    run_render (show ({} : Settings).segmenter = .graphemes from rfl) ['x', '='] hslots
  obtain ⟨behind, hrun, hwindow⟩ := hview view hvalid rfl
  refine ⟨hslots, hvalid, rfl, extractor, hbuild, hline, ?_⟩
  rw [hrun]
  exact hwindow

end Extractor

end TextCursor
