import TextCursor.Proofs.Segmentation.LookBack
import TextCursor.Proofs.Session.Frame

/-!
# Chopping through a delimiter

A delimiter stands at an offset of a text when it is read there and there is a boundary at either
end of it (`Segmenter.StandsAt`). The search for it tries runs of as many clusters as the delimiter
has alone. That no place is missed follows from what lies between two boundaries being segmented in
the text as it is alone (`Segmenter.standsAt_iff`); that the first place is found, from the search
going over the clusters in order (`Segmenter.extent_beforeRun`). `Session.chop_through_first` says
what the two chops make of it.
-/

namespace TextCursor

namespace Segmenter

variable {segmenter : Segmenter} {delimiter text : Text} {offset : Nat}

/-- The delimiter is read in the text from this offset on, between two boundaries. How many clusters
lie between these is left open. -/
def StandsAt (segmenter : Segmenter) (delimiter text : Text) (offset : Nat) : Prop :=
  segmenter.IsBoundary text offset ∧ (text.drop offset).take delimiter.length = delimiter ∧
    segmenter.IsBoundary text (offset + delimiter.length)

/-- A delimiter stands in a text behind clusters of it and in front of others, and the clusters in
between are those of the delimiter alone. -/
theorem standsAt_iff : segmenter.StandsAt delimiter text offset ↔
    ∃ front back, segmenter.clusters text = front ++ (segmenter.clusters delimiter ++ back) ∧
      extent front = offset := by
  constructor
  · rintro ⟨hstart, hread, hstop⟩
    by_cases hempty : delimiter = []
    · subst hempty
      obtain ⟨front, back, hclusters, hoffset⟩ := isBoundary_iff_exists_append.1 hstart
      exact ⟨front, back, hclusters, hoffset⟩
    · have hlength := congrArg List.length hread
      have hpos := List.length_pos_iff.2 hempty
      rw [List.length_take, List.length_drop] at hlength
      -- the first boundary is one of the text up to the second, and so both can be cut at
      have hfront := (isBoundary_take_iff (Nat.lt_add_of_pos_right hpos)).2 hstart
      have hread' : (text.take (offset + delimiter.length)).drop offset = delimiter := by
        rw [List.drop_take, Nat.add_sub_cancel_left, hread]
      refine ⟨segmenter.clusters (text.take offset),
        segmenter.clusters (text.drop (offset + delimiter.length)), ?_, ?_⟩
      · rw [← hstop.clusters_take_drop, ← hfront.clusters_take_drop, hread', List.take_take,
          Nat.min_eq_left (Nat.le_add_right _ _), List.append_assoc]
      · rw [extent, clusters, ClusterRule.flatten_clusters, List.length_take]
        omega
  · rintro ⟨front, back, hclusters, rfl⟩
    have hdelimiter : (segmenter.clusters delimiter).flatten = delimiter :=
      ClusterRule.flatten_clusters _ _
    have htext : text = front.flatten ++ (delimiter ++ back.flatten) := by
      have hflatten := congrArg List.flatten hclusters
      rwa [List.flatten_append, List.flatten_append, hdelimiter, clusters,
        ClusterRule.flatten_clusters] at hflatten
    refine ⟨?_, ?_, ?_⟩
    · exact isBoundary_iff_exists_append.2 ⟨front, _, hclusters, rfl⟩
    · rw [htext, extent, List.drop_left, List.take_left]
    · refine isBoundary_iff_exists_append.2
        ⟨front ++ segmenter.clusters delimiter, back, ?_, ?_⟩
      · rw [hclusters, List.append_assoc]
      · rw [List.flatten_append, hdelimiter, List.length_append, extent]

/-- A delimiter occurs in a text exactly when it stands somewhere in it. -/
theorem occurs_iff_exists_standsAt :
    segmenter.Occurs delimiter text ↔ ∃ offset, segmenter.StandsAt delimiter text offset := by
  constructor
  · rintro ⟨front, back, hclusters⟩
    rw [List.append_assoc] at hclusters
    exact ⟨_, standsAt_iff.2 ⟨front, back, hclusters.symm, rfl⟩⟩
  · rintro ⟨offset, hstands⟩
    obtain ⟨front, back, hclusters, -⟩ := standsAt_iff.1 hstands
    exact ⟨front, back, by rw [hclusters, List.append_assoc]⟩

/-- A delimiter that is one cluster occurs exactly where a cluster of the text is equal to it. -/
theorem occurs_iff_mem (h : segmenter.clusters delimiter = [delimiter]) :
    segmenter.Occurs delimiter text ↔ delimiter ∈ segmenter.clusters text := by
  rw [Occurs, h, List.singleton_infix_iff]

/-- The clusters in front of the run that is found end where the delimiter stands first. -/
theorem extent_beforeRun {before : List Text}
    (h : beforeRun (segmenter.clusters delimiter).length delimiter (segmenter.clusters text) =
      some before) :
    segmenter.StandsAt delimiter text (extent before) ∧
      ∀ other, segmenter.StandsAt delimiter text other → extent before ≤ other := by
  constructor
  · obtain ⟨after, hclusters⟩ := clusters_eq_of_beforeRun h
    exact standsAt_iff.2 ⟨before, after, hclusters, rfl⟩
  · intro other hother
    obtain ⟨front, back, hclusters, rfl⟩ := standsAt_iff.1 hother
    -- the search finds a run here at the latest
    obtain ⟨found, hfound, hprefix⟩ :=
      exists_beforeRun_isPrefix front (segmenter.clusters delimiter) back
    have hdelimiter : (segmenter.clusters delimiter).flatten = delimiter :=
      ClusterRule.flatten_clusters _ _
    rw [hdelimiter, ← hclusters, h] at hfound
    obtain rfl := Option.some.inj hfound
    exact extent_le_of_prefix hprefix

end Segmenter

namespace Window

variable {w : Window} {segmenter : Segmenter} {delimiter : Text}

/-- Where a delimiter stands in a window, the chop through it cuts at the first such place, and
parts the text of the window there. -/
theorem chopThrough?_first (hfits : w.Fits)
    (h : ∃ offset, segmenter.StandsAt delimiter w.text offset) :
    ∃ first, segmenter.StandsAt delimiter w.text first ∧
      (∀ other, segmenter.StandsAt delimiter w.text other → first ≤ other) ∧
      w.chopThrough? (segmenter.clusters w.text) (segmenter.clusters delimiter).length delimiter =
        some (.front w first delimiter.length) ∧
      (Cut.front w first delimiter.length).removed.text = w.text.take first ∧
      (Cut.front w first delimiter.length).rest.text =
        w.text.drop (first + delimiter.length) := by
  have hoccurs := Segmenter.occurs_iff_exists_standsAt.2 h
  obtain ⟨cut, hcut⟩ := Option.isSome_iff_exists.1 (isSome_chopThrough?_iff.2 hoccurs)
  obtain ⟨before, hbefore, rfl⟩ := Option.map_eq_some_iff.1 hcut
  obtain ⟨hstands, hfirst⟩ := Segmenter.extent_beforeRun hbefore
  obtain ⟨after, hclusters⟩ := Segmenter.clusters_eq_of_beforeRun hbefore
  have hlength : extent before ≤ w.size :=
    (madeOf_clusters hfits segmenter).extent_le ⟨_, hclusters.symm⟩
  exact ⟨_, hstands, hfirst, hcut, w.text_take hlength, w.text_drop _⟩

end Window

namespace Session

variable {s : Session} {handle : Nat} {view : View}

/-- Delimiter chops find the first place where the delimiter stands between boundaries. Where there
is one, both chops answer what is in front of the first one and leave the view right behind it.
Where there is none, the one chop misses and moves nothing, and the other one answers the whole
window and leaves the view empty at its end. A delimiter that is one cluster is found exactly when
it is one of the clusters of the view. -/
theorem chop_through_first (hview : s.views[handle]? = some view) (hvalid : view.Valid)
    (delimiter : Text) :
    ((∃ offset, s.segmenter.StandsAt delimiter view.text offset) →
      ∃ first, s.segmenter.StandsAt delimiter view.text first ∧
        (∀ other, s.segmenter.StandsAt delimiter view.text other → first ≤ other) ∧
        s.Takes handle (.through delimiter) (.front view.window first delimiter.length) ∧
        s.Takes handle (.tryThrough delimiter) (.front view.window first delimiter.length) ∧
        (Cut.front view.window first delimiter.length).removed.text = view.text.take first ∧
        (Cut.front view.window first delimiter.length).rest.text =
          view.text.drop (first + delimiter.length)) ∧
    ((¬ ∃ offset, s.segmenter.StandsAt delimiter view.text offset) →
      s.Takes handle (.through delimiter)
        ⟨view.window, ⟨view.window.source, view.window.stop, 0⟩⟩ ∧
      (s.step (.chop handle (.tryThrough delimiter))).result = .ok .notFound ∧
      Unmoved s (s.step (.chop handle (.tryThrough delimiter))).state) ∧
    (s.segmenter.clusters delimiter = [delimiter] →
      ((∃ made, (s.step (.chop handle (.tryThrough delimiter))).result = .ok (.found made)) ↔
        delimiter ∈ s.segmenter.clusters view.text)) := by
  refine ⟨?_, ?_, ?_⟩
  · intro hstands
    obtain ⟨first, hfirst, hleast, hcut, hremoved, hrest⟩ :=
      Window.chopThrough?_first hvalid.fits hstands
    have hthrough : s.cutOf? view (s.segmenter.clusters view.text) (.through delimiter) =
        some (.front view.window first delimiter.length) := by
      rw [cutOf?, View.text, hcut, Option.getD_some]
    have htry : s.cutOf? view (s.segmenter.clusters view.text) (.tryThrough delimiter) =
        some (.front view.window first delimiter.length) := hcut
    exact ⟨first, hfirst, hleast, takes_of_cut hview hvalid hthrough,
      takes_of_cut hview hvalid htry, hremoved, hrest⟩
  · intro hnowhere
    have hmissing : ¬ s.segmenter.Occurs delimiter view.text :=
      fun hoccurs => hnowhere (Segmenter.occurs_iff_exists_standsAt.1 hoccurs)
    have hnone : view.window.chopThrough? (s.segmenter.clusters view.window.text)
        (s.segmenter.clusters delimiter).length delimiter = none := by
      rw [← Option.not_isSome_iff_eq_none]
      exact fun hsome => hmissing (Window.isSome_chopThrough?_iff.1 hsome)
    have hthrough : s.cutOf? view (s.segmenter.clusters view.text) (.through delimiter) =
        some ⟨view.window, ⟨view.window.source, view.window.stop, 0⟩⟩ := by
      rw [cutOf?, View.text, hnone, Option.getD_none, Window.chopAll]
      simp [Cut.front, Window.take, Window.drop, Window.stop]
    have hmissed := tryThrough_notFound hview hvalid hmissing
    exact ⟨takes_of_cut hview hvalid hthrough, hmissed, unmoved_of_notFound hmissed⟩
  · intro hcluster
    rw [← Segmenter.occurs_iff_mem hcluster]
    constructor
    · rintro ⟨made, hmade⟩
      by_contra hmissing
      rw [tryThrough_notFound hview hvalid hmissing] at hmade
      cases hmade
    · intro hoccurs
      obtain ⟨first, -, -, hcut, -, -⟩ :=
        Window.chopThrough?_first hvalid.fits (Segmenter.occurs_iff_exists_standsAt.1 hoccurs)
      have htry : s.cutOf? view (s.segmenter.clusters view.text) (.tryThrough delimiter) =
          some (.front view.window first delimiter.length) := hcut
      exact ⟨_, (takes_of_cut hview hvalid htry).result⟩

/-- An arrow that is read first where its head carries an accent, which is not a place where it
stands, and a second one behind it. The accent alone is a cluster, but none of the view. -/
theorem chop_through_first_accented_arrow :
    let source : Text := ['(', 'a', '-', '>', '\u0301', 'b', '-', '>', 'c', ')']
    let view := View.ofWindow ⟨source, 1, 8⟩
    let s : Session := { settings := {}, views := [view] }
    let arrow : Text := ['-', '>']
    let accent : Text := ['\u0301']
    s.views[0]? = some view ∧ view.Valid ∧
      (view.text.drop 1).take 2 = arrow ∧ ¬ s.segmenter.StandsAt arrow view.text 1 ∧
      s.segmenter.StandsAt arrow view.text 5 ∧
      (∃ first, s.segmenter.StandsAt arrow view.text first ∧
        (∀ other, s.segmenter.StandsAt arrow view.text other → first ≤ other) ∧
        s.Takes 0 (.through arrow) (.front view.window first 2) ∧
        s.Takes 0 (.tryThrough arrow) (.front view.window first 2)) ∧
      (s.step (.chop 0 (.through arrow))).state.windows = [⟨source, 8, 1⟩, ⟨source, 1, 5⟩] ∧
      s.segmenter.clusters accent = [accent] ∧
      (s.step (.chop 0 (.tryThrough accent))).result = .ok .notFound ∧
      s.Takes 0 (.through accent) ⟨view.window, ⟨source, 9, 0⟩⟩ ∧
      ((∃ made, (s.step (.chop 0 (.tryThrough accent))).result = .ok (.found made)) ↔
        accent ∈ s.segmenter.clusters view.text) := by
  intro source view s arrow accent
  have hview : s.views[0]? = some view := rfl
  have hvalid : view.Valid := View.valid_ofWindow (by decide)
  have hclusters : s.segmenter.clusters view.text =
      [['a'], ['-'], ['>', '\u0301'], ['b'], ['-'], ['>'], ['c']] := by decide
  have hstands : s.segmenter.StandsAt arrow view.text 5 :=
    Segmenter.standsAt_iff.2 ⟨[['a'], ['-'], ['>', '\u0301'], ['b']], [['c']], hclusters, rfl⟩
  have hafter : (s.step (.chop 0 (.through arrow))).state.windows =
      [⟨source, 8, 1⟩, ⟨source, 1, 5⟩] := by decide
  have hnowhere : ¬ ∃ offset, s.segmenter.StandsAt accent view.text offset := by
    rw [← Segmenter.occurs_iff_exists_standsAt]
    decide
  have haccent : s.segmenter.clusters accent = [accent] := by decide
  obtain ⟨hfound, -, -⟩ := chop_through_first hview hvalid arrow
  obtain ⟨-, hmissing, hcluster⟩ := chop_through_first hview hvalid accent
  obtain ⟨first, hfirst, hle, hthrough, htry, -, -⟩ := hfound ⟨5, hstands⟩
  obtain ⟨hall, hmissed, -⟩ := hmissing hnowhere
  refine ⟨hview, hvalid, rfl, ?_, hstands, ⟨first, hfirst, hle, hthrough, htry⟩, hafter, haccent,
    hmissed, hall, hcluster haccent⟩
  -- there is no boundary between the head of the arrow and its accent
  rintro ⟨-, -, hstop⟩
  have hjoined : s.segmenter.breaksBetween (view.text.take 3) '\u0301' = false := by decide
  have hbreaks := (Segmenter.isBoundary_iff_breaksBetween (by decide)).1 hstop
  exact absurd (hjoined.symm.trans hbreaks) (by decide)

end Session

end TextCursor
