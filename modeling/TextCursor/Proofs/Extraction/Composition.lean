import TextCursor.Extraction.Extractor
import TextCursor.Proofs.Outcome
import TextCursor.Proofs.Window.Search

/-!
# Extractors one after the other

An extractor may be taken apart in front of any of its literals. The part in front ends with the
empty literal, which is found where the view stands and leaves it there
(`View.follow_chopThroughText_nil`), so the part behind goes on as if the run had not been
interrupted (`Extractor.runFields_append`). That holds for choppers of any kind: all that is asked
of them is what they make of the view that they are given, an error included.
-/

namespace TextCursor

variable {ε α : Type}

/-- The empty text is found at the front of every window, and its chop leaves the window. -/
theorem Window.rest_chopThroughText_nil (w : Window) : (w.chopThroughText []).rest = w := by
  rw [chopThroughText_rest (List.nil_append w.text).symm, List.length_nil]
  rfl

/-- A view that chops through the empty text stays as it is. -/
theorem View.follow_chopThroughText_nil (view : View) :
    view.follow (view.window.chopThroughText []) = view := by
  rw [follow, Window.rest_chopThroughText_nil]
  rfl

namespace Extractor

/-- Fields in a row are read by reading the leading ones, with the empty literal behind them, and
then the others, in the view that these leave. -/
theorem runFields_append (settings : Settings) (tail : Text)
    (front later : List (Text × Chopper ε α)) (view : View) :
    runFields settings tail (front ++ later) view =
      (runFields settings [] front view).andThen fun values behind =>
        (runFields settings tail later behind).map (values ++ ·) := by
  induction front generalizing view with
  | nil =>
      rw [runFields, View.follow_chopThroughText_nil, Outcome.done_andThen]
      exact (Outcome.map_id _).symm
  | cons field others ih =>
      obtain ⟨literal, chopper⟩ := field
      rw [List.cons_append, runFields, runFields, Outcome.andThen_assoc]
      congr 1
      funext value behind
      -- the value of this field goes in front of what the others come to, now or at the end
      rw [ih, Outcome.andThen_map, Outcome.map_andThen]
      simp only [Outcome.map_map, List.cons_append]

/-- The fields of an extractor are those of its leading literals and choppers and then those of the
others. -/
theorem zip_eq_append {literals : List Text} {choppers : List (Chopper ε α)} {k : Nat}
    (hk : k ≤ choppers.length) (hlength : literals.length = choppers.length + 1) :
    literals.zip choppers =
      (literals.take k ++ [[]]).zip (choppers.take k) ++
        (literals.drop k).zip (choppers.drop k) := by
  have hfronts : (literals.take k).length = (choppers.take k).length := by
    rw [List.length_take, List.length_take]
    omega
  -- the empty literal is one more than there are choppers
  have hfront : (literals.take k ++ [[]]).zip (choppers.take k ++ []) =
      (literals.take k).zip (choppers.take k) ++ [[]].zip [] :=
    List.zip_append hfronts
  rw [List.append_nil, List.zip_nil_right, List.append_nil] at hfront
  rw [hfront, ← List.zip_append hfronts, List.take_append_drop, List.take_append_drop]

/-- Extractors compose. Literals and choppers may be parted in front of any literal: both parts can
be built, with the empty literal behind the first one, and on every view the whole extractor comes
to what its two parts come to one after the other. Where the first part fails, the whole fails with
the same error and leaves the same view. Where it does not, the second part goes on from the view
that it left: its values stand behind those of the first, and its error and the view that it leaves
are those of the whole. -/
theorem run_compose {literals : List Text} {choppers : List (Chopper ε α)}
    (hlength : literals.length = choppers.length + 1) {k : Nat} (hk : k ≤ choppers.length) :
    ∃ whole first second,
      build literals (choppers.map .chopper) = .ok whole ∧
      build (literals.take k ++ [[]]) ((choppers.take k).map .chopper) = .ok first ∧
      build (literals.drop k) ((choppers.drop k).map .chopper) = .ok second ∧
      ∀ settings view,
        let front := first.run settings view
        (∀ fault, front.result = .error fault →
          whole.run settings view = ⟨.error fault, front.state, front.notices⟩) ∧
        ∀ values, front.result = .ok values →
          let back := second.run settings front.state
          whole.run settings view =
            ⟨back.result.map (values ++ ·), back.state, front.notices ++ back.notices⟩ := by
  have hfirst : (literals.take k ++ [[]]).length = (choppers.take k).length + 1 := by
    rw [List.length_append, List.length_take, List.length_take]
    simp only [List.length_singleton]
    omega
  have hsecond : (literals.drop k).length = (choppers.drop k).length + 1 := by
    rw [List.length_drop, List.length_drop]
    omega
  refine ⟨_, _, _, build_choppers hlength, build_choppers hfirst, build_choppers hsecond, ?_⟩
  intro settings view front
  have hlast : (literals.drop k).getLast? = literals.getLast? := by
    rw [List.getLast?_drop, if_neg (by omega)]
  -- the whole run is the first part and then the second
  have hwhole := runFields_append settings (literals.getLast?.getD [])
    ((literals.take k ++ [[]]).zip (choppers.take k))
    ((literals.drop k).zip (choppers.drop k)) view
  rw [← zip_eq_append hk hlength, ← hlast] at hwhole
  have hfront : front = runFields settings []
      ((literals.take k ++ [[]]).zip (choppers.take k)) view := by
    simp only [front, run, List.getLast?_concat, Option.getD_some]
  constructor
  · intro fault hfault
    rw [hfront] at hfault ⊢
    rw [run, ← hlast, hwhole, Outcome.andThen_of_error hfault]
  · intro values hvalues back
    simp only [back]
    rw [hfront] at hvalues ⊢
    rw [run, ← hlast, hwhole, Outcome.andThen_of_ok hvalues]
    rfl

/-- A chopper of two characters and one that fails one character further on, taken apart between the
two: the whole comes to the value of the first and then to the failure, with the view where that
left it. -/
theorem run_compose_failing :
    let column : Chopper ChopFault Datum := fun _ view =>
      .done (.text (view.text.take 2)) (view.move (view.window.drop 2))
    let stumble : Chopper ChopFault Datum := fun _ view =>
      .failed (.refused ['s'] view.text) (view.move (view.window.drop 1))
    let choppers := [column, stumble]
    let line := View.ofText ['n', '=', '-', '4', ';', 'x', 'y']
    ∃ whole first second,
      build [['n', '='], [';'], []] (choppers.map .chopper) = .ok whole ∧
      build [['n', '='], []] [.chopper column] = .ok first ∧
      build [[';'], []] [.chopper stumble] = .ok second ∧
      first.run {} line = .done [.text ['-', '4']] (line.move ⟨line.window.source, 4, 3⟩) ∧
      whole.run {} line =
        .failed (.refused ['s'] ['x', 'y']) (line.move ⟨line.window.source, 6, 1⟩) := by
  intro column stumble choppers line
  obtain ⟨whole, first, second, hwhole, hfirst, hsecond, hrun⟩ :=
    run_compose (show [['n', '='], [';'], []].length = choppers.length + 1 from rfl)
      (show 1 ≤ choppers.length by decide)
  obtain rfl := Except.ok.inj hfirst
  obtain rfl := Except.ok.inj hsecond
  refine ⟨whole, _, _, hwhole, hfirst, hsecond, rfl, ?_⟩
  rw [(hrun {} line).2 [.text ['-', '4']] rfl]
  rfl

end Extractor

end TextCursor
