import TextCursor.Proofs.Segmentation.Clinging
import TextCursor.Proofs.Session.Trimming

/-!
# Trimming and the characters of a view

Trimming drops clusters that are blank. In terms of characters, it drops the longest run of blank
characters at one end, except that one character of the run stays where its cluster reaches beyond
the run: in front, the last one when a mark clings to it, and at the back, the first one when a
prepended character takes it (`Session.trims_blank_runs`). The clusters of the rest of the run are
blank, and the cluster at the edge is not, since it has a character in it that is not blank.
-/

namespace TextCursor

open Unicode

namespace Segmenter

variable {front back run text : Text}

/-- The clusters of a blank text are blank. -/
theorem isBlank_of_mem_clusters (segmenter : Segmenter) (htext : ∀ c ∈ text, isBlank c) :
    ∀ cluster ∈ segmenter.clusters text, Cluster.isBlank cluster := by
  intro cluster hcluster
  have hne := segmenter.rule.ne_nil_of_mem_clusters text cluster hcluster
  have hall : ∀ c ∈ cluster, isBlank c := fun c hc => htext c (mem_of_mem_clusters hcluster hc)
  rw [Cluster.isBlank, List.all_eq_true.2 hall, Bool.and_true]
  simpa using hne

/-- No line end is parted behind a character that is not blank. -/
theorem keepsLineEnds_of_front (h : ∀ c ∈ front.getLast?, isBlank c = false) :
    KeepsLineEnds front back := by
  rintro b hb - - ⟨hreturn, -⟩
  have hblank := BreakClass.isBlank_of_lineEnd (.inl hreturn)
  rw [h b hb] at hblank
  cases hblank

/-- No line end is parted in front of a character that is not blank. -/
theorem keepsLineEnds_of_back (h : ∀ c ∈ back.head?, isBlank c = false) :
    KeepsLineEnds front back := by
  rintro - - c hc ⟨-, hfeed⟩
  have hblank := BreakClass.isBlank_of_lineEnd (.inr hfeed)
  rw [h c hc] at hblank
  cases hblank

/-- The leading blank clusters are those of a run of blank characters, less the last one where what
stands behind the run clings to it. -/
theorem takeWhile_isBlank_clusters (hrun : ∀ c ∈ run, isBlank c)
    (hback : ∀ c ∈ back.head?, isBlank c = false) :
    (graphemes.clusters (run ++ back)).takeWhile Cluster.isBlank =
      graphemes.clusters (released run back) := by
  obtain ⟨others, hclusters, hnext⟩ :=
    clusters_released (fun c hc => loose_of_isBlank (hrun c hc)) (keepsLineEnds_of_back hback)
  have hblank : ∀ cluster ∈ graphemes.clusters (released run back), Cluster.isBlank cluster :=
    isBlank_of_mem_clusters _ fun c hc => hrun c ((released_isPrefix run back).subset hc)
  have hstop : others.takeWhile Cluster.isBlank = [] := by
    cases others with
    | nil => rfl
    | cons cluster later =>
        obtain ⟨c, hc, hmem⟩ := hnext cluster rfl
        exact List.takeWhile_cons_of_neg (Cluster.not_isBlank_of_mem hmem (hback c hc))
  rw [hclusters, List.takeWhile_append_of_pos hblank, hstop, List.append_nil]

/-- What stands in front of the trailing blank clusters makes up the text without a run of blank
characters, of which the first one stays where what stands in front of the run takes it. -/
theorem withoutLastWhile_isBlank_clusters (hrun : ∀ c ∈ run, isBlank c)
    (hfront : ∀ c ∈ front.getLast?, isBlank c = false) :
    (withoutLastWhile Cluster.isBlank (graphemes.clusters (front ++ run))).flatten ++
      severed front run = front ++ run := by
  obtain ⟨others, hclusters, hlast⟩ :=
    clusters_severed (fun c hc => loose_of_isBlank (hrun c hc)) (keepsLineEnds_of_front hfront)
  have hblank : ∀ cluster ∈ graphemes.clusters (severed front run), Cluster.isBlank cluster :=
    isBlank_of_mem_clusters _ fun c hc => hrun c ((severed_isSuffix front run).subset hc)
  have hstop : withoutLastWhile Cluster.isBlank others = others := by
    apply List.rdropWhile_eq_self_iff.2
    intro hne
    obtain ⟨c, hc, hmem⟩ := hlast _ (List.getLast?_eq_getLast_of_ne_nil hne)
    exact Cluster.not_isBlank_of_mem hmem (hfront c hc)
  have hall : withoutLastWhile Cluster.isBlank (graphemes.clusters (severed front run)) = [] :=
    List.rdropWhile_eq_nil_iff.2 hblank
  calc (withoutLastWhile Cluster.isBlank (graphemes.clusters (front ++ run))).flatten ++
        severed front run
      = others.flatten ++ severed front run := by
        rw [hclusters, withoutLastWhile_append_eq, if_pos hall, hstop]
    _ = (others ++ graphemes.clusters (severed front run)).flatten := by
        rw [List.flatten_append, flatten_clusters]
    _ = front ++ run := by rw [← hclusters, flatten_clusters]

/-- A text begins with a run of blank characters, which is empty or not, and goes on with a
character that is not blank. -/
theorem exists_leading_run (text : Text) :
    ∃ run back, text = run ++ back ∧ (∀ c ∈ run, isBlank c) ∧
      ∀ c ∈ back.head?, isBlank c = false := by
  refine ⟨text.takeWhile isBlank, text.dropWhile isBlank, List.takeWhile_append_dropWhile.symm,
    fun c hc => List.mem_takeWhile_imp hc, ?_⟩
  intro c hc
  have hhead := List.head?_dropWhile_not isBlank text
  rw [Option.mem_def.1 hc] at hhead
  simpa using hhead

/-- A text ends with a run of blank characters, which is empty or not, and has a character that is
not blank in front of it. -/
theorem exists_trailing_run (text : Text) :
    ∃ front run, text = front ++ run ∧ (∀ c ∈ run, isBlank c) ∧
      ∀ c ∈ front.getLast?, isBlank c = false := by
  obtain ⟨run, back, htext, hrun, hback⟩ := exists_leading_run text.reverse
  refine ⟨back.reverse, run.reverse, ?_, ?_, ?_⟩
  · rw [← List.reverse_append, ← htext, List.reverse_reverse]
  · intro c hc
    exact hrun c (List.mem_reverse.1 hc)
  · rwa [List.getLast?_reverse]

end Segmenter

namespace Window

open Segmenter

variable {w : Window} {front back run : Text}

/-- With graphemes for clusters, trimming the front drops the leading run of blank characters, less
the last one where a mark clings to it. -/
theorem trimStart_graphemes (htext : w.text = run ++ back) (hrun : ∀ c ∈ run, isBlank c)
    (hback : ∀ c ∈ back.head?, isBlank c = false) :
    w.trimStart (graphemes.clusters w.text) = w.drop (released run back).length := by
  rw [trimStart, dropWhile, extent, htext, takeWhile_isBlank_clusters hrun hback, flatten_clusters]

/-- With graphemes for clusters, trimming the back drops the trailing run of blank characters, less
the first one where a prepended character takes it. -/
theorem trimEnd_graphemes (htext : w.text = front ++ run) (hrun : ∀ c ∈ run, isBlank c)
    (hfront : ∀ c ∈ front.getLast?, isBlank c = false) :
    w.trimEnd (graphemes.clusters w.text) =
      w.take (w.text.length - (severed front run).length) := by
  have hkept := congrArg List.length (withoutLastWhile_isBlank_clusters hrun hfront)
  rw [List.length_append] at hkept
  rw [trimEnd, dropLastWhile, extent, htext]
  congr 1
  omega

/-- A text is what is released of a run in front of it, and what the window behind that shows. -/
theorem released_append_text (htext : w.text = run ++ back) :
    w.text = released run back ++ (w.drop (released run back).length).text := by
  have hleads : released run back <+: w.text := by
    rw [htext]
    exact (released_isPrefix run back).trans (List.prefix_append run back)
  rw [text_drop]
  exact (List.prefix_iff_eq_append.1 hleads).symm

/-- A text is what the window in front of the severed part of a run at its back shows, and that
part. -/
theorem text_append_severed (hfits : w.Fits) (htext : w.text = front ++ run) :
    w.text = (w.take (w.text.length - (severed front run).length)).text ++ severed front run := by
  have htrails : severed front run <:+ w.text := by
    rw [htext]
    exact (severed_isSuffix front run).trans (List.suffix_append front run)
  have hsize := hfits.length_text
  rw [text_take w (by omega)]
  exact (List.suffix_iff_eq_append.1 htrails).symm

end Window

namespace Session

open Segmenter

variable {s : Session} {handle : Nat} {view : View} {front back run : Text}

/-- Trimming the front of a view makes the window behind its leading run of blank characters, less
the last one where a mark clings to it. -/
theorem makes_trimStart (hview : s.views[handle]? = some view) (hvalid : view.Valid)
    (hsegmenter : s.segmenter = .graphemes) (htext : view.text = run ++ back)
    (hrun : ∀ c ∈ run, isBlank c) (hback : ∀ c ∈ back.head?, isBlank c = false) :
    s.Makes handle .trimStart (view.window.drop (released run back).length) := by
  obtain ⟨hmakes, -⟩ := (holds_of_valid hview hvalid).derive .trimStart rfl
    (hvalid.hasClusters s.segmenter).trimStart
  rw [hsegmenter] at hmakes
  rwa [← Window.trimStart_graphemes htext hrun hback]

/-- Trimming the back of a view makes the window in front of its trailing run of blank characters,
less the first one where a prepended character takes it. -/
theorem makes_trimEnd (hview : s.views[handle]? = some view) (hvalid : view.Valid)
    (hsegmenter : s.segmenter = .graphemes) (htext : view.text = front ++ run)
    (hrun : ∀ c ∈ run, isBlank c) (hfront : ∀ c ∈ front.getLast?, isBlank c = false) :
    s.Makes handle .trimEnd
      (view.window.take (view.text.length - (severed front run).length)) := by
  obtain ⟨hmakes, -⟩ := (holds_of_valid hview hvalid).derive .trimEnd rfl
    (hvalid.hasClusters s.segmenter).trimEnd
  rw [hsegmenter] at hmakes
  rwa [View.text, ← Window.trimEnd_graphemes htext hrun hfront]

/-- Trimming in the characters of a view, with graphemes for clusters. The view's text begins with
its longest run of blank characters, which is empty or not; trimming the front drops this run, but
keeps the last character of it where a mark or a joiner follows and the character does not stand
alone. The text ends with its longest run of blank characters, too; trimming the back drops that
run, but keeps the first character of it where a prepended character stands before it and it does
not stand alone. Of a view that is blank altogether, trimming the front leaves an empty view at its
end, and trimming the back one at its start. -/
theorem trims_blank_runs (hview : s.views[handle]? = some view) (hvalid : view.Valid)
    (hsegmenter : s.segmenter = .graphemes) :
    (∃ run back trimmed, view.text = run ++ back ∧ (∀ c ∈ run, isBlank c) ∧
        (∀ c ∈ back.head?, isBlank c = false) ∧ s.Makes handle .trimStart trimmed ∧
        trimmed = view.window.drop (released run back).length ∧
        view.text = released run back ++ trimmed.text) ∧
      (∃ front run trimmed, view.text = front ++ run ∧ (∀ c ∈ run, isBlank c) ∧
        (∀ c ∈ front.getLast?, isBlank c = false) ∧ s.Makes handle .trimEnd trimmed ∧
        trimmed = view.window.take (view.text.length - (severed front run).length) ∧
        view.text = trimmed.text ++ severed front run) ∧
      ((∀ c ∈ view.text, isBlank c) →
        s.Makes handle .trimStart ⟨view.window.source, view.window.stop, 0⟩ ∧
        s.Makes handle .trimEnd ⟨view.window.source, view.window.start, 0⟩) := by
  refine ⟨?_, ?_, ?_⟩
  · obtain ⟨run, back, htext, hrun, hback⟩ := exists_leading_run view.text
    exact ⟨run, back, _, htext, hrun, hback,
      makes_trimStart hview hvalid hsegmenter htext hrun hback, rfl,
      Window.released_append_text htext⟩
  · obtain ⟨front, run, htext, hrun, hfront⟩ := exists_trailing_run view.text
    exact ⟨front, run, _, htext, hrun, hfront,
      makes_trimEnd hview hvalid hsegmenter htext hrun hfront, rfl,
      Window.text_append_severed hvalid.fits htext⟩
  · intro hall
    have hsize : view.text.length = view.window.size := hvalid.fits.length_text
    have hstart := makes_trimStart hview hvalid hsegmenter (List.append_nil view.text).symm hall
      (by simp)
    have hend := makes_trimEnd hview hvalid hsegmenter (List.nil_append view.text).symm hall
      (by simp)
    rw [released_nil, hsize, Window.drop, Nat.sub_self] at hstart
    rw [severed_nil, Nat.sub_self] at hend
    exact ⟨hstart, hend⟩

/-- A marked space behind a tab and a prepended sign in front of two spaces, and a view that is
blank, with a line end in it. -/
theorem trims_blank_runs_marked_space :
    let source : Text := ['x', ' ', '\t', ' ', '\u0301', 'a', '\u0600', ' ', ' ', '\r', '\n']
    let marked := View.ofWindow ⟨source, 1, 8⟩
    let blank := View.ofWindow ⟨source, 8, 3⟩
    let s : Session := { settings := {}, views := [marked, blank] }
    s.views[0]? = some marked ∧ s.views[1]? = some blank ∧ marked.Valid ∧ blank.Valid ∧
      s.segmenter = .graphemes ∧ s.Makes 0 .trimStart ⟨source, 3, 6⟩ ∧
      s.Makes 0 .trimEnd ⟨source, 1, 7⟩ ∧ s.Makes 1 .trimStart ⟨source, 11, 0⟩ ∧
      s.Makes 1 .trimEnd ⟨source, 8, 0⟩ := by
  intro source marked blank s
  have hmarked : s.views[0]? = some marked := rfl
  have hblank : s.views[1]? = some blank := rfl
  have hmarkedValid : marked.Valid := View.valid_ofWindow (by decide)
  have hblankValid : blank.Valid := View.valid_ofWindow (by decide)
  obtain ⟨⟨-, -, start, -, -, -, hstart, -⟩, ⟨-, -, last, -, -, -, hlast, -⟩, -⟩ :=
    trims_blank_runs hmarked hmarkedValid rfl
  obtain ⟨-, -, hall⟩ := trims_blank_runs hblank hblankValid rfl
  have hstartResult : (s.step (.derive 0 .trimStart)).result =
      .ok (.view 2 (marked.window.trimStart (marked.clusters s.segmenter))) := rfl
  have hstartWindow :
      marked.window.trimStart (marked.clusters s.segmenter) = ⟨source, 3, 6⟩ := by decide
  have hlastResult : (s.step (.derive 0 .trimEnd)).result =
      .ok (.view 2 (marked.window.trimEnd (marked.clusters s.segmenter))) := rfl
  have hlastWindow :
      marked.window.trimEnd (marked.clusters s.segmenter) = ⟨source, 1, 7⟩ := by decide
  rw [hstartWindow] at hstartResult
  rw [hlastWindow] at hlastResult
  obtain ⟨-, rfl⟩ := Answer.view.inj (Except.ok.inj (hstart.result.symm.trans hstartResult))
  obtain ⟨-, rfl⟩ := Answer.view.inj (Except.ok.inj (hlast.result.symm.trans hlastResult))
  obtain ⟨hblankStart, hblankLast⟩ := hall (List.all_eq_true.1 (by decide))
  exact ⟨hmarked, hblank, hmarkedValid, hblankValid, rfl, hstart, hlast, hblankStart, hblankLast⟩

end Session

end TextCursor
