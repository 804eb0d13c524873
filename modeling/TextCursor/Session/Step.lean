import TextCursor.Error

/-!
# Steps on views

A session holds views and iterators, and proceeds in steps. Steps come in kinds by what they may
change: queries and derivations leave every view where it is, chops move the one view they work
on, and iterators and the choice of a segmenter are kinds of their own. Only some steps of each kind
need the clusters of the view, which are memoized then.
-/

namespace TextCursor

/-- A text to search for or compare with: given, or that of a view of the session. -/
inductive Operand where
  | text (text : Text)
  | view (handle : Nat)

/-- A question about a view. -/
inductive Query where
  | source
  | start
  | size
  | text
  | clusterCount
  | isNonempty
  | description
  | clusters
  | indexOf (operand : Operand)
  | equals (operand : Operand)
  | equalsIgnoringCase (operand : Operand)
  | startsWith (operand : Operand)
  | endsWith (operand : Operand)
  | isValue (value : Option Operand)
  | isNotValue (value : Option Operand)
  | hasCluster (cluster : Text)
  | clusterAt (index : Int)
  | item (index : Int)
  | peekNumber (kind : NumberKind) (fallback : Option Datum)

/-- The answer depends on the clusters of the view. The other questions are about its bounds and its
text. -/
def Query.needsClusters : Query → Bool
  | .clusterCount | .clusters | .hasCluster _ | .clusterAt _ | .item _ | .peekNumber .. => true
  | .source | .start | .size | .text | .isNonempty | .description | .indexOf _ | .equals _
  | .equalsIgnoringCase _ | .startsWith _ | .endsWith _ | .isValue _ | .isNotValue _ => false

/-- A way to make a view from a view. -/
inductive Derivation where
  | copy
  | narrow (start : Int) (size : Option Int)
  | parts (start size : Nat)
  | slice (first last : Option Int) (stepped : Bool)
  | trimStart
  | trimEnd
  | trim
  | takeWhile (test : Text → Bool)
  | takeLastWhile (test : Text → Bool)

/-- The new view depends on the clusters of the view that it is made from. A slice with a step has
them counted before it is refused. -/
def Derivation.needsClusters : Derivation → Bool
  | .slice .. | .trimStart | .trimEnd | .trim | .takeWhile _ | .takeLastWhile _ => true
  | .copy | .narrow .. | .parts .. => false

/-- A way to take something off a view. -/
inductive Chop where
  | first (count : Int)
  | last (count : Int)
  | while (test : Text → Bool)
  | lastWhile (test : Text → Bool)
  | through (delimiter : Text)
  | tryThrough (delimiter : Text)
  | throughText (operand : Operand)
  | number (kind : NumberKind) (fallback : Option Datum)
  | chopper (name : Text)

/-- What the chop takes off depends on the clusters of the view: not where nothing is taken off, and
not where the delimiter has no clusters to be found. A chopper sees to the clusters itself. -/
def Chop.needsClusters (segmenter : Segmenter) : Chop → Bool
  | .first count | .last count => 0 < count
  | .while _ | .lastWhile _ | .number .. => true
  | .through delimiter | .tryThrough delimiter => segmenter.clusters delimiter ≠ []
  | .throughText _ | .chopper _ => false

/-- A step of a session. All but the choice of a segmenter work on the view or the iterator with a
given handle. -/
inductive Step where
  | query (view : Nat) (query : Query)
  | derive (view : Nat) (derivation : Derivation)
  | chop (view : Nat) (chop : Chop)
  | iterate (view : Nat)
  | next (iterator : Nat)
  | selectSegmenter (choice : SegmenterChoice)

/-- What a step answers: a value, a view that is new to the session, or such an answer where the
step could also have answered that there is none. -/
inductive Answer where
  | value (datum : Datum)
  | view (handle : Nat) (window : Window)
  | found (answer : Answer)
  | notFound

end TextCursor
