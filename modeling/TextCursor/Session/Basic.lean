import TextCursor.Session.Step
import TextCursor.Unicode.CaseFold

/-!
# Sessions

A session holds views, iterators over their clusters, and the settings in force. Every view that a
step answers joins the session. A failed step changes nothing but memos, and does not end the
session. A step makes a memo of a view when it needs the clusters of that view, and no other step
touches the memo.
-/

namespace TextCursor

/-- An iterator over the clusters of a view. It takes the clusters when it is first asked for one,
and is not concerned with the view after that. -/
inductive ClusterIterator where
  | waiting (view : Nat)
  | running (rest : List Text)

/-- The state of a session. Handles are positions in the lists. -/
structure Session where
  settings : Settings
  views : List View
  iterators : List ClusterIterator := []

/-- The outcome of a step. -/
abbrev Session.Reply := Outcome Session Error Answer

namespace Session

/-- A session with one view. -/
def start (settings : Settings) (window : Window) : Session where
  settings := settings
  views := [.ofWindow window]

/-- The segmenter in force. -/
def segmenter (s : Session) : Segmenter :=
  s.settings.segmenter

/-- The session with another view under a handle. -/
def putView (s : Session) (handle : Nat) (view : View) : Session :=
  { s with views := s.views.set handle view }

/-- The session with the view under a handle memoized, if its clusters are needed. -/
def memoizedIf (s : Session) (needed : Bool) (handle : Nat) : Session :=
  { s with views := s.views.modify handle (·.memoizeIf needed s.segmenter) }

/-- The session with one more view, which the answer names. -/
def addView (s : Session) (window : Window) : Answer × Session :=
  (.view s.views.length window, { s with views := s.views ++ [.ofWindow window] })

/-- The text of an operand. -/
def operandText? (s : Session) : Operand → Option Text
  | .text text => some text
  | .view handle => s.views[handle]?.map View.text

/-- Go on with the text of an operand. -/
def withOperand (s : Session) (operand : Operand) (next : Text → Reply) : Reply :=
  match s.operandText? operand with
  | some text => next text
  | none => .failed .noSuchHandle s

/-- The answer for a number that may be missing: the fallback takes its place if there is one. -/
def numberAnswer (number : Option Datum) : Option Datum → Answer
  | some fallback => .value (number.getD fallback)
  | none =>
      match number with
      | some value => .found (.value value)
      | none => .notFound

/-- An integer as an answer. -/
def intAnswer (n : Int) : Answer :=
  .value (.int n)

/-- A text as an answer. -/
def textAnswer (text : Text) : Answer :=
  .value (.text text)

/-- A truth value as an answer. -/
def boolAnswer (b : Bool) : Answer :=
  .value (.bool b)

/-- Answer a question about a view whose clusters are known. -/
def answerQuery (s : Session) (view : View) (clusters : List Text) : Query → Reply
  | .source => .done (textAnswer view.window.source) s
  | .start => .done (intAnswer view.window.start) s
  | .size => .done (intAnswer view.window.size) s
  | .text => .done (textAnswer view.text) s
  | .clusterCount => .done (intAnswer clusters.length) s
  | .isNonempty => .done (boolAnswer (0 < view.window.size)) s
  | .description => .done (textAnswer view.window.describe) s
  | .clusters => .done (.value (.list (clusters.map .text))) s
  | .indexOf operand => s.withOperand operand fun needle =>
      .done (intAnswer (((Text.indexOf? needle view.text).map Int.ofNat).getD (-1))) s
  | .equals operand => s.withOperand operand fun other =>
      .done (boolAnswer (view.text = other)) s
  | .equalsIgnoringCase operand => s.withOperand operand fun other =>
      .done (boolAnswer (Unicode.foldCase view.text = Unicode.foldCase other)) s
  | .startsWith operand => s.withOperand operand fun other =>
      .done (boolAnswer (other.isPrefixOf view.text)) s
  | .endsWith operand => s.withOperand operand fun other =>
      .done (boolAnswer (other.isSuffixOf view.text)) s
  | .isValue none => .done (boolAnswer false) s
  | .isValue (some operand) => s.withOperand operand fun other =>
      .done (boolAnswer (view.text = other)) s
  | .isNotValue none => .done (boolAnswer true) s
  | .isNotValue (some operand) => s.withOperand operand fun other =>
      .done (boolAnswer (view.text ≠ other)) s
  | .hasCluster cluster => .done (boolAnswer (cluster ∈ clusters)) s
  | .clusterAt index => .done (textAnswer ((Window.clusterAt? clusters index).getD [])) s
  | .item index =>
      match Window.item? clusters index with
      | some cluster => .done (textAnswer cluster) s
      | none => .failed .indexOutOfRange s
  | .peekNumber kind fallback =>
      match view.peekNumber s.segmenter kind with
      | .ok number => .done (numberAnswer number fallback) s
      | .error fault => .failed (.chop fault) s

/-- The window that a derivation makes from a window with these clusters. -/
def deriveWindow (segmenter : Segmenter) (w : Window) (clusters : List Text) :
    Derivation → Except Error Window
  | .copy => .ok w
  | .narrow start size => .ok (w.narrow start size)
  | .parts start size => .ok ⟨w.source, start, size⟩
  | .slice _ _ true => .error .steppedSlice
  | .slice first last false => .ok (w.slice clusters first last)
  | .trimStart => .ok (w.trimStart clusters)
  | .trimEnd => .ok (w.trimEnd clusters)
  | .trim => .ok (w.trim clusters segmenter)
  | .takeWhile test => .ok (w.chopWhile clusters test).removed
  | .takeLastWhile test => .ok (w.chopLastWhile clusters test).removed

/-- Let a view follow a cut, and answer the part that was removed as a new view. -/
def followCut (s : Session) (handle : Nat) (view : View) (cut : Cut) : Answer × Session :=
  (s.putView handle (view.follow cut)).addView cut.removed

/-- Take something off a view whose clusters are known. -/
def chopView (s : Session) (handle : Nat) (view : View) (clusters : List Text) :
    Chop → Reply
  | .first count => cutTo (view.window.chopFirst clusters count)
  | .last count => cutTo (view.window.chopLast clusters count)
  | .while test => cutTo (view.window.chopWhile clusters test)
  | .lastWhile test => cutTo (view.window.chopLastWhile clusters test)
  | .through delimiter => cutTo ((through? delimiter).getD view.window.chopAll)
  | .tryThrough delimiter =>
      match through? delimiter with
      | some cut =>
          let (answer, following) := s.followCut handle view cut
          .done (.found answer) following
      | none => .done .notFound s
  | .throughText operand => s.withOperand operand fun needle =>
      cutTo (view.window.chopThroughText needle)
  | .number kind fallback =>
      match view.chopNumber s.segmenter kind with
      | .ok (some (value, behind)) =>
          .done (numberAnswer (some value) fallback) (s.putView handle behind)
      | .ok none => .done (numberAnswer none fallback) s
      | .error fault => .failed (.chop fault) s
  | .chopper name =>
      match Registry.builtin.find? name with
      | some chopper =>
          ((((chopper s.settings view).mapError Error.chop).map Answer.value).onState
            fun behind => s.putView handle behind)
      | none => .failed (.noSuchChopper name) s
where
  /-- The cut behind the first run of clusters that spells the delimiter. -/
  through? (delimiter : Text) : Option Cut :=
    view.window.chopThrough? clusters (s.segmenter.clusters delimiter).length delimiter
  /-- Follow a cut and answer the removed part. -/
  cutTo (cut : Cut) : Reply :=
    let (answer, following) := s.followCut handle view cut
    .done answer following

/-- The next cluster of an iterator, or nothing at its end. -/
def nextCluster (s : Session) (handle : Nat) (rest : List Text) : Reply :=
  let put (following : List Text) : Session :=
    { s with iterators := s.iterators.set handle (.running following) }
  match rest with
  | [] => .done (.value .null) (put [])
  | cluster :: later => .done (textAnswer cluster) (put later)

/-- Carry out a step. -/
def step (s : Session) : Step → Reply
  | .query handle query =>
      match s.views[handle]? with
      | none => .failed .noSuchHandle s
      | some view =>
          let seen := s.memoizedIf query.needsClusters handle
          seen.answerQuery view (view.clusters s.segmenter) query
  | .derive handle derivation =>
      match s.views[handle]? with
      | none => .failed .noSuchHandle s
      | some view =>
          let seen := s.memoizedIf derivation.needsClusters handle
          match deriveWindow s.segmenter view.window (view.clusters s.segmenter) derivation with
          | .ok window =>
              let (answer, following) := seen.addView window
              .done answer following
          | .error error => .failed error seen
  | .chop handle chop =>
      match s.views[handle]? with
      | none => .failed .noSuchHandle s
      | some view =>
          let seen := view.memoizeIf (chop.needsClusters s.segmenter) s.segmenter
          (s.putView handle seen).chopView handle seen (view.clusters s.segmenter) chop
  | .iterate handle =>
      .done (intAnswer s.iterators.length)
        { s with iterators := s.iterators ++ [.waiting handle] }
  | .next handle =>
      match s.iterators[handle]? with
      | none => .failed .noSuchHandle s
      | some (.running rest) => s.nextCluster handle rest
      | some (.waiting origin) =>
          match s.views[origin]? with
          | none => .failed .noSuchHandle s
          | some view =>
              (s.memoizedIf true origin).nextCluster handle (view.clusters s.segmenter)
  | .selectSegmenter choice =>
      let outcome := s.settings.selectSegmenter choice
      ((outcome.mapError Error.segmenter).map fun previous => textAnswer previous.name).onState
        fun settings => { s with settings := settings }

/-- Carry out steps one after the other, and answer the outcome of each. -/
def run (s : Session) : List Step → List Reply
  | [] => []
  | first :: later =>
      let outcome := s.step first
      outcome :: run outcome.state later

/-- The session behind a list of steps. -/
def after (s : Session) (steps : List Step) : Session :=
  steps.foldl (fun state next => (state.step next).state) s

end Session

end TextCursor
