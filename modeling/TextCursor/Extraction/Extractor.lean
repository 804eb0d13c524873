import TextCursor.Extraction.Chopper

/-!
# Extractors

An extractor reads values out of a line that has a known shape: literals with values between them.
Each literal is searched for in what is left of the line, so text in front of it is skipped, and a
literal that is missing uses up the line. What a chopper has moved stays moved when it fails.
-/

namespace TextCursor

/-- What a caller offers as a chopper: a chopper, or a value that is none. -/
inductive Candidate (ε α : Type) where
  | chopper (chopper : Chopper ε α)
  | value (datum : Datum)

/-- Literals with choppers between them: each field is a literal and the chopper of the value
behind it, and one more literal ends the line. -/
structure Extractor (ε α : Type) where
  fields : List (Text × Chopper ε α)
  tail : Text

/-- Why an extractor cannot be built. -/
inductive ShapeFault where
  | literalCount (expected given choppers : Nat)
  | notAChopper (value : Datum)

/-- The wording of the fault. -/
def ShapeFault.message : ShapeFault → Text
  | literalCount expected given choppers =>
      Text.lit "Expected " ++ Text.ofNat expected ++ Text.lit " literal parts for "
        ++ Text.ofNat choppers ++ Text.lit " choppers, got " ++ Text.ofNat given ++ Text.lit "."
  | notAChopper value => value.describe ++ Text.lit " is not a chopper."

variable {ε α : Type}

/-- The choppers among the candidates, or the first candidate that is none. -/
def Candidate.choppers : List (Candidate ε α) → Except ShapeFault (List (Chopper ε α))
  | [] => .ok []
  | chopper c :: later => (choppers later).map (c :: ·)
  | value datum :: _ => .error (.notAChopper datum)

/-- Candidates that are choppers are all taken. -/
@[simp] theorem Candidate.choppers_map (choppers : List (Chopper ε α)) :
    Candidate.choppers (choppers.map .chopper) = .ok choppers := by
  induction choppers with
  | nil => rfl
  | cons chopper later ih =>
      rw [List.map_cons, Candidate.choppers, ih]
      rfl

namespace Extractor

/-- The extractor with these literals around these choppers. There has to be one literal more than
there are choppers, which is looked at first. -/
def build (literals : List Text) (candidates : List (Candidate ε α)) :
    Except ShapeFault (Extractor ε α) :=
  if literals.length ≠ candidates.length + 1 then
    .error (.literalCount (candidates.length + 1) literals.length candidates.length)
  else
    (Candidate.choppers candidates).map fun choppers =>
      ⟨literals.zip choppers, literals.getLast?.getD []⟩

/-- With choppers only, the number of literals decides whether there is an extractor. -/
theorem build_choppers {literals : List Text} {choppers : List (Chopper ε α)}
    (h : literals.length = choppers.length + 1) :
    build literals (choppers.map .chopper) =
      .ok ⟨literals.zip choppers, literals.getLast?.getD []⟩ := by
  rw [build, if_neg (by simp [h]), Candidate.choppers_map]
  rfl

/-- The literals of the extractor. -/
def literals (extractor : Extractor ε α) : List Text :=
  extractor.fields.map (·.1) ++ [extractor.tail]

/-- The notice that the extractor has been built. -/
def notice (extractor : Extractor ε α) : Notice :=
  .extractorBuilt extractor.literals extractor.fields.length

/-- Read the fields and then the tail off a view. The first failing chopper ends the run. -/
def runFields (settings : Settings) (tail : Text) :
    List (Text × Chopper ε α) → View → Outcome View ε (List α)
  | [], view => .done [] (view.follow (view.window.chopThroughText tail))
  | (literal, chopper) :: later, view =>
      (chopper settings (view.follow (view.window.chopThroughText literal))).andThen
        fun value behind => (runFields settings tail later behind).map (value :: ·)

/-- The values that the extractor reads off a view. -/
def run (extractor : Extractor ε α) (settings : Settings) (view : View) :
    Outcome View ε (List α) :=
  runFields settings extractor.tail extractor.fields view

end Extractor

/-- What an extractor is put to: a text, a view, or the latest such view as it was left. -/
inductive Line where
  | text (text : Text)
  | view (window : Window)
  | again

namespace Extractor

/-- Read one line after the other. A failure does not keep later lines from being read. Before the
first view of a line, `again` means an empty text. -/
def readLines (extractor : Extractor ε α) (settings : Settings) :
    View → List Line → List (Outcome View ε (List α))
  | _, [] => []
  | kept, .text text :: later =>
      extractor.run settings (.ofText text) :: readLines extractor settings kept later
  | _, .view window :: later =>
      let outcome := extractor.run settings (.ofWindow window)
      outcome :: readLines extractor settings outcome.state later
  | kept, .again :: later =>
      let outcome := extractor.run settings kept
      outcome :: readLines extractor settings outcome.state later

end Extractor

end TextCursor
