import TextCursor.Proofs.Number.Scan
import TextCursor.Proofs.Segmentation.Clinging

/-!
# What opens a number, character by character

A scan goes over clusters, but what it goes over can be told from the characters of the text alone.
There is a longest text in front that may open a number (`Numeral.Opens`). Its characters join
nothing, so that each of them is a cluster, all but perhaps the last: a mark behind the opening
clings to that one, which then is no digit, sign or point any more. So the scan goes over the
opening, or over all but its last character (`Numeral.accepted_graphemes`), and with code points for
clusters it always goes over the opening (`Numeral.accepted_codePoints`).
-/

namespace TextCursor

open Unicode

namespace NumberState

variable {kind : NumberKind} {state : NumberState} {front word : Text}

/-- The front of what is admitted is admitted. -/
theorem Admits.of_isPrefix (h : state.Admits kind word) (hfront : front <+: word) :
    state.Admits kind front := by
  obtain ⟨rest, rfl⟩ := hfront
  induction front generalizing state with
  | nil => exact admits_nil kind state
  | cons c later ih =>
      obtain ⟨following, hnext, hlater⟩ := admits_cons_iff.1 h
      exact admits_cons_iff.2 ⟨following, hnext, ih hlater⟩

/-- A character that continues a number is of no particular class. -/
theorem plain_of_next {c : Char} {following : NumberState}
    (h : state.next kind [c] = some following) : BreakClass.ofChar c = .other := by
  unfold next at h
  split at h
  · next hsign => rcases hsign.2 with hc | hc <;> cases hc <;> decide
  · split at h
    · next hdigit => exact BreakClass.ofChar_digit hdigit
    · split at h
      · next hpoint =>
          cases hpoint.2.2
          decide
      · cases h

/-- The characters that are admitted are of no particular class. -/
theorem Admits.plain (h : state.Admits kind word) : ∀ c ∈ word, BreakClass.ofChar c = .other := by
  induction word generalizing state with
  | nil => simp
  | cons c later ih =>
      obtain ⟨following, hnext, hlater⟩ := admits_cons_iff.1 h
      exact List.forall_mem_cons.2 ⟨plain_of_next hnext, ih hlater⟩

end NumberState

namespace Numeral

/-- The longest text in front of a text that may open a number: a sign or none and digits, and where
a fraction is admitted perhaps a point and more digits. No digit is asked for. -/
structure Opens (kind : NumberKind) (opening text : Text) : Prop where
  leads : opening <+: text
  admitted : NumberState.start.Admits kind opening
  longest : ∀ other, other <+: text → NumberState.start.Admits kind other →
    other.length ≤ opening.length

/-- The opening without its last character if it has one and a mark or a joiner follows it. -/
def unmarked (opening rest : Text) : Text :=
  if opening ≠ [] ∧ Segmenter.Clinging rest then opening.dropLast else opening

variable {kind : NumberKind} {opening rest text word : Text} {clusters : List Text}

/-- What is left of an opening stands in front of it. -/
theorem unmarked_isPrefix (opening rest : Text) : unmarked opening rest <+: opening := by
  unfold unmarked
  split
  · exact List.dropLast_prefix opening
  · exact List.prefix_rfl

/-- Where something is left off an opening, a mark or a joiner follows it. -/
theorem of_unmarked_ne (h : unmarked opening rest ≠ opening) :
    opening ≠ [] ∧ Segmenter.Clinging rest :=
  (ite_ne_right_iff.1 h).1

/-- Characters in front, each one a cluster alone, are the front of the text that these make up. -/
theorem isPrefix_of_map_isPrefix (h : word.map ([·]) <+: clusters) : word <+: clusters.flatten := by
  obtain ⟨others, rfl⟩ := h
  rw [List.flatten_append, Text.flatten_map_singleton]
  exact List.prefix_append _ _

/-- What a scan goes over is no longer than the opening. -/
theorem Opens.isPrefix (h : Opens kind opening text) (hclusters : clusters.flatten = text) :
    ∃ word, accepted kind .start clusters = word.map ([·]) ∧ word <+: opening := by
  obtain ⟨word, hword, hadmits⟩ := accepted_admits kind .start clusters
  have hleading := isPrefix_of_map_isPrefix (hword ▸ accepted_isPrefix kind .start clusters)
  rw [hclusters] at hleading
  exact ⟨word, hword,
    List.prefix_of_prefix_length_le hleading h.leads (h.longest word hleading hadmits)⟩

/-- With code points for clusters, a scan goes over the opening. -/
theorem accepted_codePoints (h : Opens kind opening text) :
    (accepted kind .start (Segmenter.codePoints.clusters text)).flatten = opening := by
  obtain ⟨word, hword, hle⟩ := h.isPrefix (Segmenter.codePoints.flatten_clusters text)
  have hleading : opening.map ([·]) <+: Segmenter.codePoints.clusters text := by
    rw [Segmenter.clusters_codePoints]
    exact h.leads.map _
  have hge := isPrefix_of_map_isPrefix (isPrefix_accepted h.admitted hleading)
  rw [hword, Text.flatten_map_singleton] at hge ⊢
  exact hle.eq_of_length_le hge.length_le

/-- A text has an opening, which may be empty. -/
theorem exists_opens (kind : NumberKind) (text : Text) : ∃ opening, Opens kind opening text := by
  obtain ⟨opening, hopening, hadmits⟩ :=
    accepted_admits kind .start (Segmenter.codePoints.clusters text)
  have hleading := hopening ▸ accepted_isPrefix kind .start (Segmenter.codePoints.clusters text)
  refine ⟨opening, ?_, hadmits, ?_⟩
  · rw [← Segmenter.codePoints.flatten_clusters text]
    exact isPrefix_of_map_isPrefix hleading
  · intro other hother hadmitted
    have hmap : other.map ([·]) <+: Segmenter.codePoints.clusters text := by
      rw [Segmenter.clusters_codePoints]
      exact hother.map _
    have hle := (isPrefix_accepted hadmitted hmap).length_le
    rwa [hopening, List.length_map, List.length_map] at hle

/-- The characters of an opening join nothing, and what clings to it is what clings to its last
character. -/
theorem Opens.unmarked_eq (h : Opens kind opening text) (rest : Text) :
    unmarked opening rest = Segmenter.released opening rest := by
  have hclings : (opening ≠ [] ∧ Segmenter.Clinging rest) ↔
      Segmenter.Clings opening rest := by
    constructor
    · rintro ⟨hne, hmark⟩
      obtain ⟨init, b, rfl⟩ := (List.eq_nil_or_concat' opening).resolve_left hne
      refine ⟨b, List.getLast?_concat, ?_, hmark⟩
      rw [h.admitted.plain b (by simp)]
      rfl
    · rintro ⟨b, hb, -, hmark⟩
      refine ⟨?_, hmark⟩
      rintro rfl
      cases hb
  unfold unmarked Segmenter.released
  simp only [hclings]

/-- What is released of an opening stands alone, character by character, in front of the other
clusters. -/
theorem Opens.clusters_unmarked (h : Opens kind opening (opening ++ rest)) :
    ∃ others, Segmenter.graphemes.clusters (opening ++ rest) =
        (unmarked opening rest).map ([·]) ++ others ∧
      ∀ cluster ∈ others.head?, ∃ c ∈ rest.head?, c ∈ cluster := by
  have hplain := h.admitted.plain
  have hends : Segmenter.KeepsLineEnds opening rest := by
    rintro b hb - - ⟨hreturn, -⟩
    rw [hplain b (List.mem_of_getLast? hb)] at hreturn
    cases hreturn
  obtain ⟨others, hclusters, hnext⟩ :=
    Segmenter.clusters_released (fun c hc => .inr (hplain c hc)) hends
  have hsingle : Segmenter.graphemes.clusters (unmarked opening rest ++ []) = _ :=
    Segmenter.clusters_plain_append (fun c hc => hplain c ((unmarked_isPrefix _ _).subset hc))
      (by decide)
  refine ⟨others, ?_, hnext⟩
  rw [hclusters, ← h.unmarked_eq rest]
  simpa using hsingle

/-- With graphemes for clusters, a scan goes over the opening, less its last character where a mark
or a joiner follows. -/
theorem accepted_graphemes (h : Opens kind opening (opening ++ rest)) :
    (accepted kind .start (Segmenter.graphemes.clusters (opening ++ rest))).flatten =
      unmarked opening rest := by
  obtain ⟨word, hword, hle⟩ := h.isPrefix (Segmenter.graphemes.flatten_clusters (opening ++ rest))
  obtain ⟨others, hclusters, hnext⟩ := h.clusters_unmarked
  have hadmitted : NumberState.start.Admits kind (unmarked opening rest) := by
    exact h.admitted.of_isPrefix (unmarked_isPrefix opening rest)
  have hge := isPrefix_of_map_isPrefix
    (isPrefix_accepted hadmitted (hclusters ▸ List.prefix_append _ others))
  have hleading := accepted_isPrefix kind .start (Segmenter.graphemes.clusters (opening ++ rest))
  rw [hword, Text.flatten_map_singleton] at hge ⊢
  rw [hword, hclusters] at hleading
  obtain ⟨more, rfl⟩ := hge
  cases more with
  | nil => exact List.append_nil _
  | cons b later =>
      -- the next cluster would be one character of the opening, and it has the mark in it
      have hplain := h.admitted.plain b (hle.subset (by simp))
      have hnextCluster : [b] ∈ others.head? := by
        rw [List.map_append, List.prefix_append_right_inj] at hleading
        obtain ⟨further, rfl⟩ := hleading
        rfl
      obtain ⟨c, hc, hmem⟩ := hnext [b] hnextCluster
      obtain rfl := List.mem_singleton.1 hmem
      have hshorter : unmarked opening rest ≠ opening := by
        intro hsame
        have hlength := hle.length_le
        rw [hsame, List.length_append, List.length_cons] at hlength
        omega
      obtain ⟨-, d, hd, hmark⟩ := of_unmarked_ne hshorter
      obtain rfl := Option.mem_unique hc hd
      rw [hplain] at hmark
      cases hmark

end Numeral

end TextCursor
