import TextCursor.Text
import TextCursor.Unicode.Blank

/-!
# Tests on clusters

The tests that trimming, word chopping and number scanning put to a cluster. They are defined on
every text, so that they can also be asked about what is not one cluster.
-/

namespace TextCursor.Cluster

/-- The text is blank: it has characters and all of them are blank. A line end of two characters
is blank; a space that carries a mark is not. -/
def isBlank (cluster : Text) : Bool :=
  !cluster.isEmpty && cluster.all Unicode.isBlank

/-- The text may stand in a word: it is neither empty nor blank. -/
def isWordPart (cluster : Text) : Bool :=
  !cluster.isEmpty && !isBlank cluster

/-- The text is one decimal digit of ASCII. Other decimal digits are not numeric input, and
neither is a digit that carries a mark. -/
def isDigit : Text → Bool
  | [c] => c.isDigit
  | _ => false

end TextCursor.Cluster
