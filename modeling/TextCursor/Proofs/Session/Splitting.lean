import TextCursor.Proofs.Session.Handles
import TextCursor.Proofs.Session.Loop
import TextCursor.Proofs.Session.Search
import TextCursor.Proofs.Splitting

/-!
# Splitting a view by a loop of chops

A loop that chops through a separator as long as the view shows anything ends, and its pieces are
the parts of the view between the successive first places of the separator, without an empty last
one (`Session.chop_loop_splits`). This holds of texts and of clusters alike, since both chops take
what a view shows apart at the first place (`Session.TakesParts`): the induction is on the splitting
and not on the loop.
-/

namespace TextCursor

/-- A text stands at an offset when there is as much in front of it. -/
theorem Text.standsAt_iff_append {needle text : Text} {offset : Nat} :
    Text.StandsAt needle text offset ↔
      ∃ front back, text = front ++ (needle ++ back) ∧ front.length = offset := by
  constructor
  · rintro ⟨hinside, hread⟩
    refine ⟨text.take offset, text.drop (offset + needle.length), ?_, ?_⟩
    · have hparts := List.take_append_drop needle.length (text.drop offset)
      rw [hread, List.drop_drop] at hparts
      rw [hparts, List.take_append_drop]
    · rw [List.length_take]
      omega
  · rintro ⟨front, back, rfl, rfl⟩
    constructor
    · rw [List.length_append, List.length_append]
      omega
    · rw [List.drop_left, List.take_left]

/-- The offset that a search answers is the length of what is in front of the first place. -/
theorem Text.indexOf?_eq_dropInfix? (needle text : Text) :
    Text.indexOf? needle text = (text.dropInfix? needle).map (·.1.length) := by
  cases hfirst : text.dropInfix? needle with
  | none =>
      rw [Option.map_none, ← Option.not_isSome_iff_eq_none, Text.isSome_indexOf?_iff]
      exact dropInfix?_eq_none_iff.1 hfirst
  | some cut =>
      obtain ⟨front, back⟩ := cut
      obtain ⟨htext, hleast⟩ := dropInfix?_eq_some_iff_append.1 hfirst
      rw [Option.map_some, Text.indexOf?_eq_some_iff]
      refine ⟨Text.standsAt_iff_append.2 ⟨front, back, htext, rfl⟩, ?_⟩
      intro other hother hstands
      obtain ⟨before, after, hplace, rfl⟩ := Text.standsAt_iff_append.1 hstands
      exact absurd hother (Nat.not_lt.2 (hleast before after hplace))

namespace Window

variable {w : Window}

/-- A window is empty exactly when it has no clusters. -/
theorem HasClusters.size_eq_zero_iff {segmenter : Segmenter} {clusters : List Text}
    (h : w.HasClusters segmenter clusters) : w.size = 0 ↔ clusters = [] := by
  constructor
  · intro hsize
    have htext : w.text = [] := List.length_eq_zero_iff.1 (h.fits.length_text.trans hsize)
    rw [← h.clusters_eq, htext, segmenter.clusters_nil]
  · rintro rfl
    exact h.madeOf.extent_eq.symm

/-- Nothing is left of a window that is removed, and no clusters. -/
theorem HasClusters.rest_chopAll {segmenter : Segmenter} {clusters : List Text}
    (h : w.HasClusters segmenter clusters) : w.chopAll.rest.HasClusters segmenter [] := by
  rw [chopAll_eq]
  exact ⟨h.fits, rfl⟩

/-- A chop through a text parts the text of a window where that stands first. -/
theorem texts_chopThroughText (hfits : w.Fits) (needle : Text) :
    ((w.chopThroughText needle).removed.text, (w.chopThroughText needle).rest.text) =
      (w.text.dropInfix? needle).getD (w.text, []) := by
  have hindex := Text.indexOf?_eq_dropInfix? needle w.text
  cases hfirst : w.text.dropInfix? needle with
  | none =>
      rw [hfirst, Option.map_none] at hindex
      rw [chopThroughText_of_none hindex, Option.getD_none, Prod.mk.injEq]
      exact ⟨rfl, List.take_zero⟩
  | some cut =>
      obtain ⟨front, back⟩ := cut
      obtain ⟨htext, -⟩ := dropInfix?_eq_some_iff_append.1 hfirst
      rw [hfirst, Option.map_some] at hindex
      obtain ⟨hcut, hremoved, hrest⟩ := chopThroughText_of_indexOf? hfits hindex
      rw [hcut, hremoved, hrest, htext, Option.getD_some, ← List.drop_drop, List.drop_left,
        List.drop_left, List.take_left]

/-- A chop through a delimiter parts the clusters of a window where those of the delimiter stand
first. -/
theorem HasClusters.chopThrough {segmenter : Segmenter} {clusters : List Text}
    (h : w.HasClusters segmenter clusters) (delimiter : Text) :
    let cut := (w.chopThrough? clusters (segmenter.clusters delimiter).length delimiter).getD
      w.chopAll
    let parts := (clusters.dropInfix? (segmenter.clusters delimiter)).getD (clusters, [])
    cut.removed.HasClusters segmenter parts.1 ∧ cut.rest.HasClusters segmenter parts.2 := by
  intro cut parts
  cases hfirst : clusters.dropInfix? (segmenter.clusters delimiter) with
  | none =>
      have hnowhere :
          beforeRun (segmenter.clusters delimiter).length delimiter clusters = none := by
        rw [← Option.not_isSome_iff_eq_none, ← h.clusters_eq, Segmenter.isSome_beforeRun_iff,
          Segmenter.Occurs, h.clusters_eq]
        exact dropInfix?_eq_none_iff.1 hfirst
      simp only [cut, parts, hfirst, chopThrough?, hnowhere, Option.map_none, Option.getD_none]
      exact ⟨h, h.rest_chopAll⟩
  | some found =>
      obtain ⟨front, back⟩ := found
      obtain ⟨rfl, hleast⟩ := dropInfix?_eq_some_iff_append.1 hfirst
      -- the search stops here at the latest, and there is no place further in front
      obtain ⟨before, hbefore, hprefix⟩ :=
        exists_beforeRun_isPrefix front (segmenter.clusters delimiter) back
      rw [segmenter.flatten_clusters] at hbefore
      obtain ⟨after, hplace⟩ := Segmenter.clusters_eq_of_beforeRun (h.clusters_eq ▸ hbefore)
      obtain rfl := hprefix.eq_of_length_le (hleast before after (h.clusters_eq ▸ hplace))
      have hlength : extent before + delimiter.length =
          extent (before ++ segmenter.clusters delimiter) := by
        rw [extent_append, extent, extent, segmenter.flatten_clusters]
      simp only [cut, parts, hfirst, chopThrough?, hbefore, Option.map_some, Option.getD_some]
      refine ⟨h.stretch_front, ?_⟩
      rw [← List.append_assoc] at h
      rw [Cut.front, hlength, h.madeOf.drop_extent]
      exact h.stretch_back

end Window

namespace Session

/-- The loop that takes a chop off the view under the handle in every round ends, and these are the
texts of the pieces that it answers. -/
def Collects (s : Session) (handle : Nat) (chop : Chop) (pieces : List Text) : Prop :=
  ∃ rounds final, Drains handle [.chop handle chop] s rounds final ∧
    rounds.flatten.map Answer.text? = pieces.map some

/-- A chop answers what is in front of the first place of a separator among the items that the view
shows, and leaves what is behind it; where there is none it answers all items and leaves nothing. -/
structure TakesParts {α : Type} [BEq α] (handle : Nat) (chop : Chop) (separator : List α)
    (itemsOf : Text → List α) (Shows : Session → List α → Prop) : Prop where
  window : ∀ {s items}, Shows s items → ∃ w, s.windows[handle]? = some w ∧ (w.size = 0 ↔ items = [])
  step : ∀ {s items}, Shows s items → items ≠ [] →
    let cut := (items.dropInfix? separator).getD (items, [])
    ∃ made, (s.step (.chop handle chop)).result = .ok (.view s.views.length made) ∧
      itemsOf made.text = cut.1 ∧ Shows (s.step (.chop handle chop)).state cut.2

section

variable {α : Type} [BEq α] {handle : Nat} {chop : Chop} {separator items : List α}
  {itemsOf : Text → List α} {Shows : Session → List α → Prop} {s : Session}

/-- Where nothing is shown, the loop is at its end. -/
theorem TakesParts.collects_nil (h : TakesParts handle chop separator itemsOf Shows)
    (hshows : Shows s []) : s.Collects handle chop [] := by
  obtain ⟨w, hwindow, hempty⟩ := h.window hshows
  exact ⟨[], s, .done hwindow (hempty.2 rfl), rfl⟩

/-- Where something is shown, the loop answers a first piece and those of what is left. -/
theorem TakesParts.collects_cons (h : TakesParts handle chop separator itemsOf Shows)
    (hshows : Shows s items) (hitems : items ≠ []) {front back : List α}
    (hcut : (items.dropInfix? separator).getD (items, []) = (front, back))
    {parts : List (List α)} (hlater : ∀ {t}, Shows t back →
      ∃ pieces, t.Collects handle chop pieces ∧ pieces.map itemsOf = parts) :
    ∃ pieces, s.Collects handle chop pieces ∧ pieces.map itemsOf = front :: parts := by
  obtain ⟨w, hwindow, hempty⟩ := h.window hshows
  obtain ⟨made, hresult, hfront, hback⟩ := h.step hshows hitems
  rw [hcut] at hfront hback
  obtain ⟨pieces, ⟨rounds, final, hdrains, hanswers⟩, hparts⟩ := hlater hback
  refine ⟨made.text :: pieces, ⟨[.view s.views.length made] :: rounds, final, ?_, ?_⟩, ?_⟩
  · refine .round hwindow (Nat.pos_of_ne_zero (mt hempty.1 hitems)) ?_ hdrains
    rw [run, run, List.map_cons, hresult]
    rfl
  · rw [List.flatten_cons, List.map_append, hanswers]
    rfl
  · rw [List.map_cons, hfront, hparts]

/-- The loop ends with the parts of what the view shows, without an empty last one. -/
theorem TakesParts.collects [LawfulBEq α] (h : TakesParts handle chop separator itemsOf Shows)
    (hseparator : separator ≠ []) {parts : List (List α)} (hparts : Splits separator items parts)
    (hshows : Shows s items) :
    ∃ pieces, s.Collects handle chop pieces ∧
      pieces.map itemsOf = withoutEmptyLast parts := by
  induction hparts generalizing s with
  | @whole items hnowhere =>
      by_cases hitems : items = []
      · subst hitems
        exact ⟨[], h.collects_nil hshows, rfl⟩
      · have hall : withoutEmptyLast [items] = [items] := by simp [withoutEmptyLast, hitems]
        rw [hall]
        exact h.collects_cons hshows hitems (by rw [hnowhere, Option.getD_none])
          fun hnothing => ⟨[], h.collects_nil hnothing, rfl⟩
  | part hfirst hlater ih =>
      obtain ⟨hplace, -⟩ := dropInfix?_eq_some_iff_append.1 hfirst
      have hitems : _ ≠ [] := hplace ▸ List.append_ne_nil_of_right_ne_nil _
        (List.append_ne_nil_of_left_ne_nil hseparator _)
      rw [withoutEmptyLast_cons hlater.ne_nil]
      exact h.collects_cons hshows hitems (by rw [hfirst, Option.getD_some]) ih

end

variable {handle : Nat} {operand : Operand} {needle : Text}

/-- The text of an operand that is a view is that of its window. -/
theorem operandText?_view (s : Session) (other : Nat) :
    s.operandText? (.view other) = s.windows[other]?.map Window.text := by
  rw [windows_getElem?, Option.map_map]
  rfl

/-- The view under the handle shows this text, and the operand is the needle as long as that is
not empty. -/
def ShowsText (handle : Nat) (operand : Operand) (needle : Text) (s : Session) (text : Text) :
    Prop :=
  (∃ w clusters, s.Holds handle w clusters ∧ w.text = text) ∧
    (text ≠ [] → s.operandText? operand = some needle)

/-- The view under the handle has these clusters under the segmenter. -/
def ShowsClusters (handle : Nat) (segmenter : Segmenter) (s : Session) (clusters : List Text) :
    Prop :=
  s.segmenter = segmenter ∧ ∃ w, s.Holds handle w clusters

/-- While a view is chopped, the text that is looked for stays what it is, or nothing is left: it is
given, or that of another view, or the view is chopped through its own text. -/
theorem operandText?_after_chop {s : Session} {w : Window} {clusters : List Text}
    (hholds : s.Holds handle w clusters) (hoperand : s.operandText? operand = some needle)
    (chop : Chop) :
    (s.step (.chop handle chop)).state.operandText? operand = some needle ∨ needle = w.text := by
  cases operand with
  | text text => exact .inl hoperand
  | view other =>
      rw [operandText?_view] at hoperand ⊢
      by_cases hself : other = handle
      · subst hself
        rw [hholds.windows, Option.map_some, Option.some.injEq] at hoperand
        exact .inr hoperand.symm
      · obtain ⟨v, hv, hneedle⟩ := Option.map_eq_some_iff.1 hoperand
        have hchops : ¬ Step.Chops other (.chop handle chop) := fun h => hself h.symm
        rw [step_keeps_window hchops hv, Option.map_some, hneedle]
        exact .inl rfl

/-- A chop through the text of an operand takes the text of a view apart at the first place of the
needle. -/
theorem takesParts_throughText (handle : Nat) (operand : Operand) (needle : Text) :
    TakesParts handle (.throughText operand) needle id (ShowsText handle operand needle) where
  window := by
    rintro s text ⟨⟨w, clusters, hholds, rfl⟩, -⟩
    refine ⟨w, hholds.windows, ?_⟩
    rw [← hholds.hasClusters.fits.length_text, List.length_eq_zero_iff]
  step := by
    rintro s text ⟨⟨w, clusters, hholds, rfl⟩, hoperand⟩ htext cut
    have hneedle := hoperand htext
    have hfits := hholds.hasClusters.fits
    have hcut : ∀ view : View, view.window = w →
        s.cutOf? view clusters (.throughText operand) = some (w.chopThroughText needle) := by
      intro view hview
      rw [cutOf?, hneedle, Option.map_some, hview]
    have hinside := (Window.chopThroughText_conserves hfits needle).inside
    obtain ⟨hremoved, hrest⟩ := Prod.mk.inj (Window.texts_chopThroughText hfits needle)
    obtain ⟨htakes, hbehind⟩ := hholds.chop hcut ⟨hinside.rest.fits hfits, rfl⟩
    refine ⟨_, htakes.result, hremoved, ⟨_, _, hbehind, hrest⟩, ?_⟩
    intro hleft
    rcases operandText?_after_chop hholds hneedle (.throughText operand) with hkept | hself
    · exact hkept
    · have hnothing : cut = ([], []) := by
        simp only [cut, hself, dropInfix?_self, Option.getD_some]
      exact absurd (congrArg Prod.snd hnothing) hleft

/-- A chop through a delimiter takes the clusters of a view apart at the first place of those of the
delimiter. -/
theorem takesParts_through (handle : Nat) (segmenter : Segmenter) (delimiter : Text) :
    TakesParts handle (.through delimiter) (segmenter.clusters delimiter) segmenter.clusters
      (ShowsClusters handle segmenter) where
  window := by
    rintro s clusters ⟨-, w, hholds⟩
    exact ⟨w, hholds.windows, hholds.hasClusters.size_eq_zero_iff⟩
  step := by
    rintro s clusters ⟨rfl, w, hholds⟩ - cut
    obtain ⟨hremoved, hrest⟩ := hholds.hasClusters.chopThrough delimiter
    have hcut : ∀ view : View, view.window = w →
        s.cutOf? view clusters (.through delimiter) =
          some ((w.chopThrough? clusters (s.segmenter.clusters delimiter).length
            delimiter).getD w.chopAll) := by
      intro view hview
      rw [cutOf?, hview]
    obtain ⟨htakes, hbehind⟩ := hholds.chop hcut hrest
    exact ⟨_, htakes.result, hremoved.clusters_eq, segmenter_step_chop s handle _, _, hbehind⟩

/-- A loop of chops splits a view at a separator that is not empty. The loop that chops through a
text, given or that of a view, ends, and its pieces are the parts of the text of the view between
the successive first places of the separator, without an empty last one: the separator stands in no
piece, and the pieces with the separator between them are the text, but for one separator that may
be lost at its end. The loop that chops through a delimiter does the same to the clusters of the
view under every segmenter: it ends, the delimiter stands between boundaries in no piece, and the
clusters of the pieces, each segmented alone, make up those of the view with the clusters of the
delimiter between them. -/
theorem chop_loop_splits {s : Session} {view : View} (hview : s.views[handle]? = some view)
    (hvalid : view.Valid) (hoperand : s.operandText? operand = some needle)
    (hneedle : needle ≠ []) :
    (∃ pieces, s.Collects handle (.throughText operand) pieces ∧
      (∃ parts, Splits needle view.text parts ∧ pieces = withoutEmptyLast parts) ∧
      (∀ piece ∈ pieces, ¬ needle <:+: piece) ∧
      (Text.join needle pieces = view.text ∨ Text.join needle pieces ++ needle = view.text)) ∧
    ∃ pieces, s.Collects handle (.through needle) pieces ∧
      (∃ parts, Splits (s.segmenter.clusters needle) (s.segmenter.clusters view.text) parts ∧
        pieces.map s.segmenter.clusters = withoutEmptyLast parts) ∧
      (∀ piece ∈ pieces, ∀ offset, ¬ s.segmenter.StandsAt needle piece offset) ∧
      let joined := (s.segmenter.clusters needle).intercalate (pieces.map s.segmenter.clusters)
      joined = s.segmenter.clusters view.text ∨
        joined ++ s.segmenter.clusters needle = s.segmenter.clusters view.text := by
  have hholds := holds_of_valid hview hvalid
  constructor
  · obtain ⟨parts, hparts⟩ := Splits.exists_parts hneedle view.text
    obtain ⟨pieces, hcollects, hpieces⟩ :=
      (takesParts_throughText handle operand needle).collects hneedle hparts
        ⟨⟨_, _, hholds, rfl⟩, fun _ => hoperand⟩
    rw [List.map_id] at hpieces
    subst hpieces
    refine ⟨_, hcollects, ⟨parts, hparts, rfl⟩, ?_, ?_⟩
    · intro piece hpiece
      exact hparts.not_infix hneedle piece (withoutEmptyLast_subset hpiece)
    · rw [← hparts.intercalate_eq]
      exact intercalate_withoutEmptyLast needle parts
  · have hclusters : s.segmenter.clusters needle ≠ [] := by
      intro hnone
      have hflatten := s.segmenter.flatten_clusters needle
      rw [hnone] at hflatten
      exact hneedle hflatten.symm
    obtain ⟨parts, hparts⟩ := Splits.exists_parts hclusters (s.segmenter.clusters view.text)
    obtain ⟨pieces, hcollects, hpieces⟩ :=
      (takesParts_through handle s.segmenter needle).collects hclusters hparts ⟨rfl, _, hholds⟩
    refine ⟨pieces, hcollects, ⟨parts, hparts, hpieces⟩, ?_, ?_⟩
    · intro piece hpiece offset hstands
      have hpart : s.segmenter.clusters piece ∈ parts :=
        withoutEmptyLast_subset (hpieces ▸ List.mem_map_of_mem hpiece)
      exact hparts.not_infix hclusters _ hpart
        (Segmenter.occurs_iff_exists_standsAt.2 ⟨offset, hstands⟩)
    · rw [hpieces, ← hparts.intercalate_eq]
      exact intercalate_withoutEmptyLast _ parts

/-- Two dashes, the second of which carries an accent once. The raw loop splits there, and the other
one does not, since the accent belongs to the dash. Both lose the dashes at the end. -/
theorem chop_loop_splits_accented_dash :
    let source : Text := ['(', 'a', '-', '-', '\u0301', 'b', '-', '-', ')']
    let view := View.ofWindow ⟨source, 1, 7⟩
    let s : Session := { settings := {}, views := [view] }
    let dashes : Text := ['-', '-']
    s.views[0]? = some view ∧ view.Valid ∧ s.operandText? (.text dashes) = some dashes ∧
      dashes ≠ [] ∧
      s.Collects 0 (.throughText (.text dashes)) [['a'], ['\u0301', 'b']] ∧
      s.Collects 0 (.through dashes) [['a', '-', '-', '\u0301', 'b']] := by
  intro source view s dashes
  have hview : s.views[0]? = some view := rfl
  have hvalid : view.Valid := View.valid_ofWindow (by decide)
  have hdashes : dashes ≠ [] := by decide
  obtain ⟨⟨pieces, hraw, ⟨parts, hparts, rfl⟩, -⟩, others, hclusters, ⟨runs, hruns, hothers⟩, -⟩ :=
    chop_loop_splits hview hvalid (show s.operandText? (.text dashes) = some dashes from rfl)
      hdashes
  have hpartsHere : Splits dashes view.text [['a'], ['\u0301', 'b'], []] :=
    .part rfl (.part rfl (.whole rfl))
  have hrunsHere : Splits (s.segmenter.clusters dashes) (s.segmenter.clusters view.text)
      [[['a'], ['-'], ['-', '\u0301'], ['b']], []] :=
    .part (by decide) (.whole (by decide))
  obtain rfl := hpartsHere.unique hparts
  obtain rfl := hrunsHere.unique hruns
  -- each piece is what its clusters spell
  have hspelled := congrArg (List.map List.flatten) hothers
  rw [List.map_map, show List.flatten ∘ s.segmenter.clusters = id from
    funext s.segmenter.flatten_clusters, List.map_id] at hspelled
  subst hspelled
  exact ⟨hview, hvalid, rfl, hdashes, hraw, hclusters⟩

end Session

end TextCursor
