import TextCursor.Settings.Basic
import TextCursor.View.Number

/-!
# Choppers

A chopper takes one value off the front of a view. It may move the view also when it fails. Four
choppers are built in: integers, numbers with a fraction, words, and an optional character.
-/

namespace TextCursor

/-- A function that takes one value off the front of a view under the given settings. -/
abbrev Chopper (ε α : Type) := Settings → View → Outcome View ε α

namespace Chopper

/-- Take a number off the view. Where there is none the view stays, and the fault gives the
chopper's name and the text it saw. -/
def number (name : Text) (kind : NumberKind) : Chopper ChopFault Datum := fun settings view =>
  let seen := view.memoize settings.segmenter
  match seen.chopNumber settings.segmenter kind with
  | .error fault => .failed fault seen
  | .ok (some (value, rest)) => .done value rest
  | .ok none =>
      ⟨.error (.refused name view.text), seen, settings.note (.refused name view.window)⟩

/-- A signed integer in decimal digits. -/
def int : Chopper ChopFault Datum :=
  number (Text.lit "int") .whole

/-- A signed decimal number, with or without a point. -/
def float : Chopper ChopFault Datum :=
  number (Text.lit "float") .fractional

/-- Follow a cut, and answer the text that it removed. -/
def removedText {ε : Type} (view : View) (cut : Cut) : Outcome View ε Datum :=
  .done (.text cut.removed.text) (view.follow cut)

/-- The text of the leading clusters that pass the test, which may be empty. -/
def leading {ε : Type} (test : Text → Bool) : Chopper ε Datum := fun settings view =>
  let seen := view.memoize settings.segmenter
  removedText seen (seen.window.chopWhile (seen.clusters settings.segmenter) test)

/-- Everything up to the next blank cluster. It may be empty. -/
def word {ε : Type} : Chopper ε Datum :=
  leading Cluster.isWordPart

/-- One cluster, unless that is blank. It is empty at a blank cluster and at the end. -/
def optional {ε : Type} : Chopper ε Datum := fun settings view =>
  let seen := view.memoize settings.segmenter
  let clusters := seen.clusters settings.segmenter
  match Window.clusterAt? clusters 0 with
  | none => .done (.text []) seen
  | some first =>
      if Cluster.isBlank first then .done (.text []) seen
      else removedText seen (seen.window.chopFirst clusters 1)

end Chopper

end TextCursor
