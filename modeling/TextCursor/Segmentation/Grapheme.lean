import TextCursor.Segmentation.ClusterRule
import TextCursor.Unicode.BreakClass

/-!
# Extended grapheme clusters

The cluster rule of what a reader takes for one character: a letter with its accents, a Hangul
syllable, a pair of regional indicators, pictographs joined to one another, a carriage return with
its line feed. Consonant conjuncts of Indic scripts are not joined.

Three rules look further back than one character. What they look for always lies inside the open
cluster, so `Context` carries it along: whether an unpaired regional indicator stands last, and
whether a pictograph with its marks, or with its marks and a joiner, stands last.
-/

namespace TextCursor.Grapheme

open Unicode

/-- How much of the sequence pictograph, extending marks, joiner stands at the end of the
cluster. -/
inductive Emoji where
  | absent
  | pictograph
  | joined
  deriving DecidableEq, Repr

/-- What the rules may still ask about the open cluster: the class of its last character, whether
that is a regional indicator without a partner, and the state of its pictograph sequence. -/
structure Context where
  last : BreakClass
  unpaired : Bool
  emoji : Emoji
  deriving DecidableEq, Repr

/-- The context of a cluster of one character. -/
def Context.start (cls : BreakClass) : Context where
  last := cls
  unpaired := cls = .regional
  emoji := if cls = .pictograph then .pictograph else .absent

/-- The context once a character of this class has joined the cluster. -/
def Context.push (ctx : Context) (cls : BreakClass) : Context where
  last := cls
  unpaired := cls = .regional && !ctx.unpaired
  emoji :=
    match cls, ctx.emoji with
    | .pictograph, _ => .pictograph
    | .extend, .pictograph => .pictograph
    | .joiner, .pictograph => .joined
    | _, _ => .absent

/-- Jamo and syllables that continue a Hangul syllable. -/
def joinsSyllable : BreakClass → BreakClass → Bool
  | .leadingJamo, .leadingJamo | .leadingJamo, .vowelJamo
  | .leadingJamo, .openSyllable | .leadingJamo, .closedSyllable => true
  | .openSyllable, .vowelJamo | .openSyllable, .trailingJamo => true
  | .vowelJamo, .vowelJamo | .vowelJamo, .trailingJamo => true
  | .closedSyllable, .trailingJamo | .trailingJamo, .trailingJamo => true
  | _, _ => false

/-- There is a boundary between the open cluster and a character of this class. The first rule
that applies decides, and where none does there is a boundary. -/
def Context.breaksBefore (ctx : Context) (cls : BreakClass) : Bool :=
  if ctx.last = .carriageReturn ∧ cls = .lineFeed then false
  else if ctx.last.standsAlone || cls.standsAlone then true
  else if joinsSyllable ctx.last cls then false
  else if cls.clings then false
  else if ctx.last = .prepend then false
  else if ctx.emoji = .joined ∧ cls = .pictograph then false
  else if ctx.unpaired ∧ cls = .regional then false
  else true

/-- The context once a character of this class has joined the cluster, or `none` where the rules
put a boundary before it. -/
def Context.join (ctx : Context) (cls : BreakClass) : Option Context :=
  if ctx.breaksBefore cls then none else some (ctx.push cls)

end Grapheme

/-- The rule of extended grapheme clusters. -/
def ClusterRule.grapheme : ClusterRule where
  State := Grapheme.Context
  first c := .start (.ofChar c)
  join ctx c := ctx.join (.ofChar c)

end TextCursor
