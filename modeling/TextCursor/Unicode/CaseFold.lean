import TextCursor.Unicode.FoldTables

/-!
# Full case folding

Two texts are equal apart from case when their foldings are equal. A character folds to one
character or, as the German sharp s does, to several. No normalization takes place: a letter with
an accent of its own and the letter followed by a combining accent fold to different texts.
-/

namespace TextCursor.Unicode

/-- The run folds this code point. -/
def FoldRun.covers (run : FoldRun) (code : Nat) : Bool :=
  run.first ≤ code && code ≤ run.last && (code - run.first) % run.stride == 0

/-- The folding of one character. -/
def foldChar (c : Char) : List Char :=
  match foldRuns.find? (·.covers c.toNat) with
  | some run => [Char.ofNat (c.toNat + run.shift).toNat]
  | none =>
      match foldExpansions.lookup c.toNat with
      | some codes => codes.map Char.ofNat
      | none => [c]

/-- The folding of a text, character by character. -/
def foldCase (text : List Char) : List Char :=
  text.flatMap foldChar

end TextCursor.Unicode
