import TextCursor.Extraction.Registry
import TextCursor.Proofs.View.Valid

/-!
# What the built-in choppers do

A built-in chopper leaves a valid view valid, with its window inside the window that it had
(`Chopper.Shrinks`), leaves the window where it is when it fails (`Chopper.StaysOnFailure`), and
comes to the same whether or not the view has a memo (`Chopper.IgnoresMemo`). What the chopper of
integers and the chopper of words take off a view is stated on the clusters of its text
(`Chopper.number_of_scan`, `Chopper.leading_eq`).
-/

namespace TextCursor

namespace Chopper

variable {ε α : Type}

/-- The chopper leaves a valid view valid and its window inside the one that it had. -/
def Shrinks (chopper : Chopper ε α) : Prop :=
  ∀ (settings : Settings) (view : View), view.Valid →
    (chopper settings view).state.Valid ∧ (chopper settings view).state.window.Inside view.window

/-- The view behind some of its leading clusters lies inside the view. -/
theorem drop_flatten_inside {view : View} (hvalid : view.Valid) {segmenter : Segmenter}
    {front back : List Text} (h : segmenter.clusters view.text = front ++ back) :
    (view.window.drop front.flatten.length).Inside view.window :=
  view.window.drop_inside
    ((Window.madeOf_clusters hvalid.fits segmenter).extent_le ⟨back, h.symm⟩)

/-- The view behind a numeral lies inside the view. -/
theorem drop_numeral_inside {view : View} (hvalid : view.Valid) {segmenter : Segmenter}
    {kind : NumberKind} {numeral : Text}
    (h : Numeral.scan kind (segmenter.clusters view.text) = some numeral) :
    (view.window.drop numeral.length).Inside view.window := by
  obtain ⟨front, back, hclusters, rfl⟩ := Numeral.exists_append_of_scan h
  exact drop_flatten_inside hvalid hclusters

/-- A chopper of numbers moves the view behind a numeral or leaves it where it is. -/
theorem number_shrinks (name : Text) (kind : NumberKind) : (number name kind).Shrinks := by
  intro settings view hvalid
  have hseen := hvalid.memoize settings.segmenter
  rw [number]
  split
  · exact ⟨hseen, .refl _⟩
  · next value rest hchop =>
      obtain ⟨numeral, hscan, -, rfl⟩ := View.Honest.chopNumber_eq_some hseen.honest hchop
      have hinside := drop_numeral_inside hseen hscan
      exact ⟨hseen.move hinside, hinside⟩
  · exact ⟨hseen, .refl _⟩

/-- A numeral that is scanned from a valid view and has a value is taken off the view. -/
theorem number_of_scan {view : View} (hvalid : view.Valid) {settings : Settings} (name : Text)
    {kind : NumberKind} {numeral : Text} {value : Datum}
    (hscan : Numeral.scan kind (settings.segmenter.clusters view.text) = some numeral)
    (hread : Numeral.read kind numeral = .ok value) :
    number name kind settings view =
      .done value
        ((view.memoize settings.segmenter).move (view.window.drop numeral.length)) := by
  have hchop : (view.memoize settings.segmenter).chopNumber settings.segmenter kind =
      .ok (some (value,
        (view.memoize settings.segmenter).move (view.window.drop numeral.length))) := by
    rw [View.chopNumber, Window.readNumber, hvalid.clusters_memoize, hscan]
    simp [hread, Except.map]
  rw [number, hchop]

/-- Taking off the text of leading clusters leaves the view behind that text. -/
theorem removedText_front {view : View} (hvalid : view.Valid) {segmenter : Segmenter}
    {front back : List Text} (h : segmenter.clusters view.text = front ++ back) :
    (removedText view (.front view.window (extent front) 0) : Outcome View ε Datum) =
      .done (.text front.flatten) (view.move (view.window.drop front.flatten.length)) := by
  have hmade : view.window.MadeOf (front ++ back) :=
    h ▸ Window.madeOf_clusters hvalid.fits segmenter
  rw [removedText, Cut.front, hmade.text_take_extent]
  rfl

/-- What the leading clusters that pass a test make up is taken off a valid view, whether it has
characters or not. -/
theorem leading_eq {view : View} (hvalid : view.Valid) (test : Text → Bool)
    (settings : Settings) :
    let taken := ((settings.segmenter.clusters view.text).takeWhile test).flatten
    (leading test settings view : Outcome View ε Datum) =
      .done (.text taken)
        ((view.memoize settings.segmenter).move (view.window.drop taken.length)) := by
  simp only [leading, Window.chopWhile, hvalid.clusters_memoize]
  exact removedText_front (hvalid.memoize settings.segmenter)
    (List.takeWhile_append_dropWhile (p := test)).symm

/-- A chopper of leading clusters moves the view behind them. -/
theorem leading_shrinks (test : Text → Bool) : (leading (ε := ε) test).Shrinks := by
  intro settings view hvalid
  have hclusters : settings.segmenter.clusters view.text = _ ++ _ :=
    (List.takeWhile_append_dropWhile (p := test)).symm
  have hinside := drop_flatten_inside hvalid hclusters
  rw [leading_eq hvalid]
  exact ⟨(hvalid.memoize _).move hinside, hinside⟩

/-- The chopper of an optional character moves the view behind one cluster or not at all. -/
theorem optional_shrinks : (optional (ε := ε)).Shrinks := by
  intro settings view hvalid
  have hseen := hvalid.memoize settings.segmenter
  have hmade := hseen.madeOf settings.segmenter
  have hrest := (view.memoize settings.segmenter).window.drop_inside
    (hmade.extent_le (List.take_prefix (1 : Int).toNat _))
  simp only [optional]
  split
  · exact ⟨hseen, .refl _⟩
  · split
    · exact ⟨hseen, .refl _⟩
    · exact ⟨hseen.move hrest, hrest⟩

/-- The chopper leaves the window where it is when it fails. -/
def StaysOnFailure (chopper : Chopper ε α) : Prop :=
  ∀ (settings : Settings) (view : View) (fault : ε),
    (chopper settings view).result = .error fault →
      (chopper settings view).state.window = view.window

/-- A chopper of numbers moves the view only when it has a value to answer. -/
theorem number_staysOnFailure (name : Text) (kind : NumberKind) :
    (number name kind).StaysOnFailure := by
  intro settings view fault hfault
  rw [number] at hfault ⊢
  split at hfault
  · rfl
  · cases hfault
  · rfl

/-- A chopper of leading clusters does not fail. -/
theorem leading_staysOnFailure (test : Text → Bool) :
    (leading (ε := ε) test).StaysOnFailure := by
  intro settings view fault hfault
  cases hfault

/-- The chopper of an optional character does not fail. -/
theorem optional_staysOnFailure : (optional (ε := ε)).StaysOnFailure := by
  intro settings view fault hfault
  simp only [optional] at hfault
  split at hfault
  · cases hfault
  · split at hfault <;> cases hfault

/-- The chopper keeps an honest view honest, and takes the same off it when it has no memo. -/
structure IgnoresMemo (chopper : Chopper ε α) : Prop where
  honest : ∀ settings view, view.Honest → (chopper settings view).state.Honest
  forget : ∀ settings view, view.Honest → chopper settings view.forget = chopper settings view

/-- A chopper of numbers ignores the memo. -/
theorem number_ignoresMemo (name : Text) (kind : NumberKind) : (number name kind).IgnoresMemo where
  honest := by
    intro settings view hview
    have hseen := hview.memoize settings.segmenter
    rw [number]
    split
    · exact hseen
    · next value rest hchop =>
        obtain ⟨numeral, -, -, rfl⟩ := hseen.chopNumber_eq_some hchop
        exact hseen.move rfl
    · exact hseen
  forget := by
    intro settings view hview
    simp only [number, hview.memoize_forget]
    rfl

/-- A chopper of leading clusters ignores the memo. -/
theorem leading_ignoresMemo (test : Text → Bool) : (leading (ε := ε) test).IgnoresMemo where
  honest := by
    intro settings view hview
    exact (hview.memoize settings.segmenter).move rfl
  forget := by
    intro settings view hview
    simp only [leading, hview.memoize_forget]

/-- The chopper of an optional character ignores the memo. -/
theorem optional_ignoresMemo : (optional (ε := ε)).IgnoresMemo where
  honest := by
    intro settings view hview
    have hseen := hview.memoize settings.segmenter
    simp only [optional]
    split
    · exact hseen
    · split
      · exact hseen
      · exact hseen.move rfl
  forget := by
    intro settings view hview
    simp only [optional, hview.memoize_forget]

end Chopper

namespace Registry

variable {ε α : Type}

/-- A chopper registered under several names is found under each of them, and what is found under
the other names stays. -/
theorem find?_insertAll (registry : Registry ε α) (names : List Text) (chopper : Chopper ε α)
    (other : Text) :
    (registry.insertAll names chopper).find? other =
      if other ∈ names then some chopper else registry.find? other := by
  induction names generalizing registry with
  | nil => simp [insertAll]
  | cons name later ih =>
      have hstep : registry.insertAll (name :: later) chopper =
          (registry.insert name chopper).insertAll later chopper := rfl
      rw [hstep, ih, find?_insert]
      by_cases hname : other = name <;> by_cases hlater : other ∈ later <;> simp [hname, hlater]

/-- What is found in the built-in registry is one of the four built-in choppers. -/
theorem eq_of_find?_builtin {name : Text} {chopper : Chopper ChopFault Datum}
    (h : builtin.find? name = some chopper) :
    chopper = Chopper.int ∨ chopper = Chopper.float ∨ chopper = Chopper.word ∨
      chopper = Chopper.optional := by
  simp only [builtin, find?_insertAll] at h
  split at h
  · cases h
    exact .inr (.inr (.inr rfl))
  · split at h
    · cases h
      exact .inr (.inr (.inl rfl))
    · split at h
      · cases h
        exact .inr (.inl rfl)
      · split at h
        · cases h
          exact .inl rfl
        · cases h

/-- Every built-in chopper keeps a valid view valid and its window inside the one that it had. -/
theorem shrinks_of_find?_builtin {name : Text} {chopper : Chopper ChopFault Datum}
    (h : builtin.find? name = some chopper) : chopper.Shrinks := by
  rcases eq_of_find?_builtin h with rfl | rfl | rfl | rfl
  · exact Chopper.number_shrinks _ _
  · exact Chopper.number_shrinks _ _
  · exact Chopper.leading_shrinks _
  · exact Chopper.optional_shrinks

/-- Every built-in chopper leaves the window where it is when it fails. -/
theorem staysOnFailure_of_find?_builtin {name : Text} {chopper : Chopper ChopFault Datum}
    (h : builtin.find? name = some chopper) : chopper.StaysOnFailure := by
  rcases eq_of_find?_builtin h with rfl | rfl | rfl | rfl
  · exact Chopper.number_staysOnFailure _ _
  · exact Chopper.number_staysOnFailure _ _
  · exact Chopper.leading_staysOnFailure _
  · exact Chopper.optional_staysOnFailure

/-- Every built-in chopper ignores the memo. -/
theorem ignoresMemo_of_find?_builtin {name : Text} {chopper : Chopper ChopFault Datum}
    (h : builtin.find? name = some chopper) : chopper.IgnoresMemo := by
  rcases eq_of_find?_builtin h with rfl | rfl | rfl | rfl
  · exact Chopper.number_ignoresMemo _ _
  · exact Chopper.number_ignoresMemo _ _
  · exact Chopper.leading_ignoresMemo _
  · exact Chopper.optional_ignoresMemo

end Registry

end TextCursor
