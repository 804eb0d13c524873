import TextCursor.Proofs.Segmentation.Boundary

/-!
# Boundaries by looking back

The rules for boundaries as they are usually written: whether there is one between two characters
is read off the whole text in front of it, by counting regional indicators and by going back over
marks to a pictograph. `Context.Describes` relates that to what a cluster rule remembers of the
open cluster alone, which shows that nothing in front of the open cluster is ever asked for
(`isBoundary_iff_breaksBetween`). Segmentation therefore composes: `spans_compose` says that the
two sides of a boundary can be cut without each other, and that a cut anywhere moves no boundary in
front of it.
-/

namespace TextCursor

open Unicode

namespace Grapheme

/-- The classes of the characters of a text, last character first. -/
def classesBack (text : Text) : List BreakClass :=
  text.reverse.map BreakClass.ofChar

/-- An odd number of regional indicators stands last. -/
def oddRegionals (back : List BreakClass) : Bool :=
  (back.takeWhile (· = .regional)).length % 2 = 1

/-- A pictograph stands last, perhaps with extending marks behind it. -/
def endsInPictograph (back : List BreakClass) : Bool :=
  (back.dropWhile (· = .extend)).head? = some .pictograph

/-- A joiner stands last, and a pictograph in front of it, perhaps with extending marks. -/
def endsInJoinedPictograph : List BreakClass → Bool
  | .joiner :: earlier => endsInPictograph earlier
  | _ => false

/-- There is a boundary between characters of the classes `back`, last one first, and a character
of class `cls`. The first rule that applies decides, and where none does there is a boundary. -/
def rulesBreak (back : List BreakClass) (cls : BreakClass) : Bool :=
  match back with
  | [] => true
  | last :: _ =>
      if last = .carriageReturn ∧ cls = .lineFeed then false
      else if last.standsAlone || cls.standsAlone then true
      else if joinsSyllable last cls then false
      else if cls.clings then false
      else if last = .prepend then false
      else if endsInJoinedPictograph back ∧ cls = .pictograph then false
      else if oddRegionals back ∧ cls = .regional then false
      else true

/-- The context says of the open cluster what the text up to its end says when one looks back. -/
structure Context.Describes (ctx : Context) (back : List BreakClass) : Prop where
  last : back.head? = some ctx.last
  unpaired : ctx.unpaired = oddRegionals back
  pictograph : ctx.emoji = .pictograph ↔ endsInPictograph back
  joined : ctx.emoji = .joined ↔ endsInJoinedPictograph back

/-- A regional indicator makes an odd number of them even and an even number odd. -/
theorem oddRegionals_cons (cls : BreakClass) (back : List BreakClass) :
    oddRegionals (cls :: back) = (cls = .regional && !oddRegionals back) := by
  by_cases h : cls = .regional
  · subst h
    have hparity : ∀ n : Nat, decide ((n + 1) % 2 = 1) = !decide (n % 2 = 1) := by
      intro n
      rw [← decide_not, decide_eq_decide]
      omega
    simpa [oddRegionals] using hparity _
  · simp [oddRegionals, h]

/-- A pictograph stands last exactly when it has just been read, or when a mark has been read
behind one. -/
theorem endsInPictograph_cons (cls : BreakClass) (back : List BreakClass) :
    endsInPictograph (cls :: back) ↔
      cls = .pictograph ∨ (cls = .extend ∧ endsInPictograph back) := by
  by_cases h : cls = .extend
  · simp [endsInPictograph, h]
  · simp [endsInPictograph, h]

/-- A joined pictograph stands last exactly when a joiner has been read behind a pictograph. -/
theorem endsInJoinedPictograph_cons (cls : BreakClass) (back : List BreakClass) :
    endsInJoinedPictograph (cls :: back) ↔ cls = .joiner ∧ endsInPictograph back := by
  cases cls <;> simp [endsInJoinedPictograph]

/-- What is known of pictographs once a character has been read. -/
theorem Context.push_emoji_eq_pictograph (ctx : Context) (cls : BreakClass) :
    (ctx.push cls).emoji = .pictograph ↔
      cls = .pictograph ∨ (cls = .extend ∧ ctx.emoji = .pictograph) := by
  obtain ⟨last, unpaired, emoji⟩ := ctx
  cases cls <;> cases emoji <;> simp [push]

/-- A pictograph is joined to what follows once a joiner has been read behind it. -/
theorem Context.push_emoji_eq_joined (ctx : Context) (cls : BreakClass) :
    (ctx.push cls).emoji = .joined ↔ cls = .joiner ∧ ctx.emoji = .pictograph := by
  obtain ⟨last, unpaired, emoji⟩ := ctx
  cases cls <;> cases emoji <;> simp [push]

variable {ctx : Context} {back : List BreakClass} {cls : BreakClass}

/-- Looking back and remembering put the same boundaries. -/
theorem Context.Describes.breaksBefore_eq (h : ctx.Describes back) (cls : BreakClass) :
    ctx.breaksBefore cls = rulesBreak back cls := by
  cases back with
  | nil => simpa using h.last
  | cons last earlier =>
      obtain rfl : last = ctx.last := by simpa using h.last
      simp only [Context.breaksBefore, rulesBreak, h.unpaired, h.joined]

/-- A character that joins the cluster brings its context up to date. -/
theorem Context.Describes.push (h : ctx.Describes back) (cls : BreakClass) :
    (ctx.push cls).Describes (cls :: back) where
  last := rfl
  unpaired := by rw [oddRegionals_cons, ← h.unpaired]; rfl
  pictograph := by
    rw [endsInPictograph_cons, ← h.pictograph, Context.push_emoji_eq_pictograph]
  joined := by
    rw [endsInJoinedPictograph_cons, ← h.pictograph, Context.push_emoji_eq_joined]

/-- Where there is a boundary before a regional indicator, the ones in front of it are paired. -/
theorem oddRegionals_eq_false_of_rulesBreak (h : rulesBreak back .regional) :
    oddRegionals back = false := by
  cases back with
  | nil => rfl
  | cons last earlier =>
      by_cases hlast : last = .regional
      · subst hlast
        simpa [rulesBreak, BreakClass.standsAlone, joinsSyllable, BreakClass.clings] using h
      · rw [oddRegionals_cons]
        simp [hlast]

/-- Where there is a boundary before a mark or a joiner, it does not follow a pictograph: only
behind a character that stands alone is there one. -/
theorem not_endsInPictograph_of_rulesBreak (h : rulesBreak back cls) (hcls : cls.clings) :
    ¬ endsInPictograph back := by
  cases back with
  | nil => simp [endsInPictograph]
  | cons last earlier =>
      have halone : cls.standsAlone = false := by
        cases cls <;> first | rfl | cases hcls
      intro hpictograph
      rw [endsInPictograph_cons] at hpictograph
      have hlast : last.standsAlone = false := by
        rcases hpictograph with rfl | ⟨rfl, -⟩ <;> rfl
      simp [rulesBreak, hlast, halone, hcls] at h

/-- A character behind a boundary begins a context that knows nothing of the text in front of it.
None of that text is asked for again. -/
theorem start_describes (h : rulesBreak back cls) :
    (Context.start cls).Describes (cls :: back) where
  last := rfl
  unpaired := by
    rw [oddRegionals_cons, Context.start]
    by_cases hcls : cls = .regional
    · subst hcls
      rw [oddRegionals_eq_false_of_rulesBreak h]
      rfl
    · simp [hcls]
  pictograph := by
    rw [endsInPictograph_cons]
    have hextend : cls = .extend → ¬ endsInPictograph back := by
      intro hcls
      subst hcls
      exact not_endsInPictograph_of_rulesBreak h rfl
    by_cases hcls : cls = .pictograph <;> simp_all [Context.start]
  joined := by
    rw [endsInJoinedPictograph_cons]
    have hjoiner : cls = .joiner → ¬ endsInPictograph back := by
      intro hcls
      subst hcls
      exact not_endsInPictograph_of_rulesBreak h rfl
    by_cases hcls : cls = .pictograph <;> simp_all [Context.start]

/-- A context does not let a character join exactly where it puts a boundary. -/
theorem Context.join_eq_none_iff (ctx : Context) (cls : BreakClass) :
    ctx.join cls = none ↔ ctx.breaksBefore cls := by
  simp [join]

/-- The context that is open behind a text says what the text says when one looks back. -/
theorem stateBehind_describes {ctx : Context} {back : List BreakClass} (h : ctx.Describes back)
    (text : Text) :
    Context.Describes (ClusterRule.grapheme.stateBehind ctx text) (classesBack text ++ back) := by
  induction text generalizing ctx back with
  | nil => exact h
  | cons c rest ih =>
      -- `c` is the last character of what lies behind the reader once it has been read
      have hrest : classesBack (c :: rest) ++ back = classesBack rest ++ (.ofChar c :: back) := by
        simp [classesBack]
      rw [hrest]
      apply ih
      show Context.Describes ((ctx.join (.ofChar c)).getD (.start (.ofChar c))) _
      by_cases hbreak : ctx.breaksBefore (.ofChar c)
      · rw [Context.join, if_pos hbreak]
        rw [h.breaksBefore_eq] at hbreak
        exact start_describes hbreak
      · rw [Context.join, if_neg hbreak]
        exact h.push (.ofChar c)

/-- The rule of extended grapheme clusters puts the boundaries that the rules put when they look
back over the text. -/
theorem breaksBefore_iff_rulesBreak (before : Text) (c : Char) :
    ClusterRule.grapheme.BreaksBefore before c ↔ rulesBreak (classesBack before) (.ofChar c) := by
  cases before with
  | nil => simp [ClusterRule.BreaksBefore, classesBack, rulesBreak]
  | cons b more =>
      have hfirst : (Context.start (.ofChar b)).Describes [.ofChar b] := start_describes rfl
      have hdescribes := stateBehind_describes hfirst more
      have hback : classesBack (b :: more) = classesBack more ++ [.ofChar b] := by
        simp [classesBack]
      rw [hback, ← hdescribes.breaksBefore_eq]
      exact Context.join_eq_none_iff _ _

end Grapheme

namespace ClusterRule

/-- The open chunk behind a text holds what does not fill whole chunks. A width of zero counts as
one. -/
theorem stateBehind_chunk (width : Nat) (text : Text) {filled : Nat} (hpos : 0 < filled)
    (hfilled : filled ≤ max width 1) :
    (chunk width).stateBehind filled text = (filled - 1 + text.length) % max width 1 + 1 := by
  induction text generalizing filled with
  | nil =>
      rw [List.length_nil, Nat.add_zero, Nat.mod_eq_of_lt (by omega)]
      show filled = filled - 1 + 1
      omega
  | cons c rest ih =>
      show (chunk width).stateBehind (((if filled < width then some (filled + 1) else none)).getD 1)
        rest = _
      by_cases hroom : filled < width
      · rw [if_pos hroom, Option.getD_some, ih (by omega) (by omega), List.length_cons]
        congr 2
        omega
      · have hfull : filled - 1 + (c :: rest).length = rest.length + max width 1 := by
          rw [List.length_cons]
          omega
        rw [if_neg hroom, Option.getD_none, ih (by omega) (by omega), hfull, Nat.add_mod_right]
        simp

/-- One more than a number is a multiple when the number is the last one below it. -/
theorem succ_mod_eq_zero_iff {n width : Nat} (h : 0 < width) :
    (n + 1) % width = 0 ↔ n % width + 1 = width := by
  have hlt : n % width < width := Nat.mod_lt n h
  rw [← Nat.mod_add_mod]
  by_cases hlast : n % width + 1 = width
  · simp [hlast]
  · rw [Nat.mod_eq_of_lt (by omega)]
    omega

/-- A full chunk takes no more. -/
theorem chunk_join_eq_none_iff (width filled : Nat) (c : Char) :
    (chunk width).join filled c = none ↔ width ≤ filled := by
  simp [chunk]

/-- The rule of chunks puts a boundary behind every full chunk. -/
theorem chunk_breaksBefore_iff (width : Nat) (before : Text) (c : Char) :
    (chunk width).BreaksBefore before c ↔ before.length % max width 1 = 0 := by
  cases before with
  | nil => simp [BreaksBefore]
  | cons b more =>
      have hlt : more.length % max width 1 < max width 1 := Nat.mod_lt _ (by omega)
      have hstate := stateBehind_chunk width more Nat.one_pos (by omega)
      rw [List.length_cons, succ_mod_eq_zero_iff (by omega)]
      refine (chunk_join_eq_none_iff width _ c).trans ?_
      show width ≤ (chunk width).stateBehind (1 : Nat) more ↔ _
      rw [hstate, Nat.sub_self, Nat.zero_add]
      omega

end ClusterRule

namespace Segmenter

/-- There is a boundary between a text and a character behind it, by the rules of the segmenter
as they look back over the whole text. Chunks of width zero are chunks of width one. -/
def breaksBetween (segmenter : Segmenter) (before : Text) (c : Char) : Bool :=
  match segmenter with
  | graphemes => Grapheme.rulesBreak (Grapheme.classesBack before) (.ofChar c)
  | codePoints => true
  | chunks width => before.length % max width 1 = 0

/-- Inside a text, the boundaries of its clusters are those that the rules put when they look back
over the text. -/
theorem isBoundary_iff_breaksBetween {segmenter : Segmenter} {text : Text} {offset : Nat}
    (h : offset < text.length) :
    segmenter.IsBoundary text offset ↔ segmenter.breaksBetween (text.take offset) text[offset] := by
  rw [isBoundary_iff_breaksBefore h]
  cases segmenter with
  | graphemes => exact Grapheme.breaksBefore_iff_rulesBreak _ _
  | codePoints =>
      cases text.take offset <;> simp [ClusterRule.BreaksBefore, breaksBetween, rule,
        ClusterRule.codePoint]
  | chunks width =>
      simp only [breaksBetween, decide_eq_true_eq]
      exact ClusterRule.chunk_breaksBefore_iff width _ _

/-- Inside the front part of a text, the boundaries of the part are those of the text. -/
theorem isBoundary_take_iff {segmenter : Segmenter} {text : Text} {cut offset : Nat}
    (h : offset < cut) :
    segmenter.IsBoundary (text.take cut) offset ↔ segmenter.IsBoundary text offset := by
  -- a cut behind the text leaves all of it
  by_cases hcut : text.length ≤ cut
  · rw [List.take_of_length_le hcut]
  · have hpart : offset < (text.take cut).length := by
      rw [List.length_take]
      omega
    have hfront : (text.take cut).take offset = text.take offset := by
      rw [List.take_take, Nat.min_eq_left (by omega)]
    rw [isBoundary_iff_breaksBefore hpart, isBoundary_iff_breaksBefore (by omega), hfront,
      List.getElem_take]

/-- Segmentation composes. The intervals of the clusters of a text are those of the two sides of
any of its boundaries, each side being cut alone; a cut anywhere, through a cluster or not, leaves
the boundaries in front of it where they are; and the boundaries are those that the rules of the
segmenter put when they look back over the whole text. -/
theorem spans_compose (segmenter : Segmenter) (text : Text) :
    (∀ cut, segmenter.IsBoundary text cut →
      segmenter.spans text =
        segmenter.spans (text.take cut) ++
          (segmenter.spans (text.drop cut)).map (Prod.map (· + cut) (· + cut))) ∧
    (∀ cut offset, offset < cut →
      (segmenter.IsBoundary (text.take cut) offset ↔ segmenter.IsBoundary text offset)) ∧
    (∀ offset (h : offset < text.length), segmenter.IsBoundary text offset ↔
      segmenter.breaksBetween (text.take offset) text[offset]) := by
  refine ⟨?_, fun cut offset h => isBoundary_take_iff h,
    fun offset h => isBoundary_iff_breaksBetween h⟩
  intro cut hcut
  have hlength : (segmenter.clusters (text.take cut)).flatten.length = cut := by
    obtain ⟨front, back, hclusters, rfl⟩ := isBoundary_iff_exists_append.1 hcut
    rw [clusters, ClusterRule.flatten_clusters, List.length_take, Nat.min_eq_left]
    have hle := congrArg (fun clusters => clusters.flatten.length) hclusters
    simp only [clusters, ClusterRule.flatten_clusters, List.flatten_append,
      List.length_append] at hle
    omega
  rw [spans, ← hcut.clusters_take_drop, place_append, hlength, place_add]
  rfl

/-- Two flags, a letter with an accent, and a line end: the second flag begins at a boundary, and
a cut through it moves no boundary in front. -/
theorem spans_compose_flags :
    let text := ['🇩', '🇪', '🇫', '🇷', 'e', '\u0301', '\r', '\n']
    graphemes.spans text = [(0, 2), (2, 4), (4, 6), (6, 8)] ∧ graphemes.IsBoundary text 2 ∧
      graphemes.spans text =
        graphemes.spans (text.take 2) ++
          (graphemes.spans (text.drop 2)).map (Prod.map (· + 2) (· + 2)) ∧
      (graphemes.IsBoundary (text.take 3) 2 ↔ graphemes.IsBoundary text 2) ∧
      (graphemes.IsBoundary text 3 ↔ graphemes.breaksBetween (text.take 3) '🇷') := by
  intro text
  have hspans : graphemes.spans text = [(0, 2), (2, 4), (4, 6), (6, 8)] := by decide
  have hboundary : graphemes.IsBoundary text 2 := Or.inr ⟨0, by simp [hspans]⟩
  obtain ⟨hcompose, hcut, hrules⟩ := spans_compose graphemes text
  exact ⟨hspans, hboundary, hcompose 2 hboundary, hcut 3 2 (by decide), hrules 3 (by decide)⟩

end Segmenter

end TextCursor
