import TextCursor.Unicode.BreakTables

/-!
# Cluster break classes

Every character has exactly one class, and the rules for cluster boundaries speak of classes only.
The class joins the Grapheme_Cluster_Break property with Extended_Pictographic: no pictograph has
a break value of its own, so one class per character is enough.
-/

namespace TextCursor.Unicode

/-- What the boundary rules know of a character. -/
inductive BreakClass where
  | carriageReturn
  | lineFeed
  | control
  | joiner
  | extend
  | spacingMark
  | prepend
  | regional
  | leadingJamo
  | vowelJamo
  | trailingJamo
  | openSyllable
  | closedSyllable
  | pictograph
  | other
  deriving DecidableEq, Repr

/-- The first and the last precomposed Hangul syllable. -/
def syllables : CodeRange := ⟨0xAC00, 0xD7A3⟩

/-- The class of a character. A Hangul syllable is open, that is, without a trailing consonant,
when it is a multiple of 28 places beyond the first one. -/
def BreakClass.ofChar (c : Char) : BreakClass :=
  let code := c.toNat
  if code = 0x0D then .carriageReturn
  else if code = 0x0A then .lineFeed
  else if code = 0x200D then .joiner
  else if controlPoints.holds code then .control
  else if 0x1F1E6 ≤ code ∧ code ≤ 0x1F1FF then .regional
  else if syllables.first ≤ code ∧ code ≤ syllables.last then
    if (code - syllables.first) % 28 = 0 then .openSyllable else .closedSyllable
  else if leadingJamoPoints.holds code then .leadingJamo
  else if vowelJamoPoints.holds code then .vowelJamo
  else if trailingJamoPoints.holds code then .trailingJamo
  else if prependPoints.holds code then .prepend
  else if spacingMarkPoints.holds code then .spacingMark
  else if extendPoints.holds code then .extend
  else if pictographPoints.holds code then .pictograph
  else .other

/-- Controls and line ends stand alone: there is a boundary on both sides of each, except inside
a carriage return with its line feed. -/
def BreakClass.standsAlone : BreakClass → Bool
  | .carriageReturn | .lineFeed | .control => true
  | _ => false

/-- Marks and joiners stay with whatever stands before them, controls apart. -/
def BreakClass.clings : BreakClass → Bool
  | .extend | .joiner | .spacingMark => true
  | _ => false

end TextCursor.Unicode
