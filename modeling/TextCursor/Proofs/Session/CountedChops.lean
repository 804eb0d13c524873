import TextCursor.Proofs.Session.Slices

/-!
# Counted chops add up

Chops of a number of clusters off either side of a view, in any order, come to one chop off each
side by the totals, as long as these leave the sides apart (`Session.counted_chops_add_up`). Each
chop segments another window, so that the counts only add up because the clusters of what is left
are those that stood there before. What carries the induction is that the clusters of the view are
in three parts, of which the chops still to come take the outer two (`Session.strips`).
-/

namespace TextCursor

/-- A side of a view. -/
inductive Side where
  | left
  | right
  deriving DecidableEq

/-- A chop of a number of clusters off one side. -/
structure CountedChop where
  side : Side
  count : Nat

namespace CountedChop

/-- The step that carries out the chop on the view under a handle. -/
def step (handle : Nat) (chop : CountedChop) : Step :=
  match chop.side with
  | .left => .chop handle (.first chop.count)
  | .right => .chop handle (.last chop.count)

/-- The number of clusters that the chops take off one side together. -/
def total (side : Side) : List CountedChop → Nat
  | [] => 0
  | chop :: later => if chop.side = side then chop.count + total side later else total side later

end CountedChop

/-- Between the positions around a run of clusters, a slice is the stretch of the run. -/
theorem Window.slice_append (w : Window) (before run after : List Text) :
    w.slice (before ++ (run ++ after)) (some before.length)
        (some ((before ++ (run ++ after)).length - after.length)) =
      w.stretch before run := by
  have hlower : sliceBound (before ++ (run ++ after)).length before.length = before.length := by
    simp only [sliceBound, List.length_append]
    split <;> omega
  have hupper : sliceBound (before ++ (run ++ after)).length
      ((before ++ (run ++ after)).length - after.length) = before.length + run.length := by
    simp only [sliceBound, List.length_append]
    split <;> omega
  rw [slice_eq]
  simp only [Option.map_some, Option.getD_some, hlower, hupper, Nat.le_add_right, Nat.max_eq_right]
  rw [List.take_left, ← List.append_assoc, ← List.length_append, List.take_left, List.drop_left]

namespace Session

/-- The text of the view that a step answered. -/
def textOf (reply : Reply) : Text :=
  match reply.result with
  | .ok (.view _ made) => made.text
  | _ => []

/-- The texts of the views answered for the chops off one side, in the order of the chops. -/
def textsOff (s : Session) (handle : Nat) (side : Side) (chops : List CountedChop) : List Text :=
  ((chops.zip (s.run (chops.map (·.step handle)))).filter (·.1.side = side)).map (textOf ·.2)

/-- The text of an answered view is that of its window. -/
theorem textOf_eq {reply : Reply} {other : Nat} {made : Window}
    (h : reply.result = .ok (.view other made)) : textOf reply = made.text := by
  rw [textOf, h]

/-- What chops come to that take the outer parts off a window in three parts: every chop answers a
view, the middle is left, and the answered texts spell the parts that have gone. -/
structure Strips (s : Session) (handle : Nat) (chops : List CountedChop) (w : Window)
    (lefts middle rights : List Text) : Prop where
  answered : ∀ reply ∈ s.run (chops.map (·.step handle)), ∃ other made,
    reply.result = .ok (.view other made)
  remains : (s.after (chops.map (·.step handle))).Holds handle (w.stretch lefts middle) middle
  left : (s.textsOff handle .left chops).flatten = lefts.flatten
  right : (s.textsOff handle .right chops).reverse.flatten = rights.flatten

variable {s : Session} {handle : Nat} {view : View} {w : Window}
  {front back lefts middle rights : List Text}

/-- The texts for a chop and those after it. -/
theorem textsOff_cons (s : Session) (handle : Nat) (side : Side) (chop : CountedChop)
    (later : List CountedChop) :
    s.textsOff handle side (chop :: later) =
      if chop.side = side then
        textOf (s.step (chop.step handle)) ::
          (s.step (chop.step handle)).state.textsOff handle side later
      else (s.step (chop.step handle)).state.textsOff handle side later := by
  simp only [textsOff, List.map_cons, run, List.zip_cons_cons, List.filter_cons]
  split <;> simp_all

/-- A chop of so many clusters off the left removes the front and leaves the back. -/
theorem Holds.chopLeft (h : s.Holds handle w (front ++ back)) :
    s.Takes handle (.first front.length) ⟨w.stretch [] front, w.stretch front back⟩ ∧
      (s.step (.chop handle (.first front.length))).state.Holds handle (w.stretch front back)
        back := by
  have hclusters := h.hasClusters
  refine h.chop ?_ hclusters.stretch_back
  intro view hview
  rw [cutOf?, hview, hclusters.madeOf.chopFirst_eq, Int.toNat_natCast, List.take_left,
    List.drop_left]

/-- A chop of so many clusters off the right removes the back and leaves the front. -/
theorem Holds.chopRight (h : s.Holds handle w (front ++ back)) :
    s.Takes handle (.last back.length) ⟨w.stretch front back, w.stretch [] front⟩ ∧
      (s.step (.chop handle (.last back.length))).state.Holds handle (w.stretch [] front)
        front := by
  have hclusters := h.hasClusters
  refine h.chop ?_ hclusters.stretch_front
  intro view hview
  rw [cutOf?, hview, hclusters.madeOf.chopLast_eq, Int.toNat_natCast, List.length_append,
    Nat.add_sub_cancel, List.take_left, List.drop_left]

/-- No chops leave all of a window, whatever its clusters are. -/
theorem strips_nil (h : s.Holds handle w middle) : s.Strips handle [] w [] middle [] where
  answered := by
    intro reply hreply
    cases hreply
  remains := by
    rw [h.hasClusters.madeOf.stretch_all]
    exact h
  left := rfl
  right := rfl

/-- A chop off the left takes the front of the left part. -/
theorem Strips.chopLeft {later : List CountedChop}
    (h : s.Holds handle w (front ++ (lefts ++ (middle ++ rights))))
    (hlater : (s.step (.chop handle (.first front.length))).state.Strips handle later
      (w.stretch front (lefts ++ (middle ++ rights))) lefts middle rights) :
    s.Strips handle (⟨.left, front.length⟩ :: later) w (front ++ lefts) middle rights := by
  have hresult : (s.step (.chop handle (.first front.length))).result =
      .ok (.view s.views.length (w.stretch [] front)) := h.chopLeft.1.result
  have htext : textOf (s.step (.chop handle (.first front.length))) = front.flatten := by
    rw [textOf_eq hresult]
    exact h.hasClusters.stretch_front.madeOf.flatten.symm
  refine ⟨List.forall_mem_cons.2 ⟨⟨_, _, hresult⟩, hlater.answered⟩, ?_, ?_, ?_⟩
  · rw [← Window.stretch_stretch]
    exact hlater.remains
  · rw [textsOff_cons, if_pos rfl, List.flatten_append, ← hlater.left, ← htext]
    rfl
  · rw [textsOff_cons, if_neg (by simp)]
    exact hlater.right

/-- A chop off the right takes the back of the right part. -/
theorem Strips.chopRight {later : List CountedChop}
    (h : s.Holds handle w ((lefts ++ (middle ++ rights)) ++ back))
    (hlater : (s.step (.chop handle (.last back.length))).state.Strips handle later
      (w.stretch [] (lefts ++ (middle ++ rights))) lefts middle rights) :
    s.Strips handle (⟨.right, back.length⟩ :: later) w lefts middle (rights ++ back) := by
  have hresult : (s.step (.chop handle (.last back.length))).result =
      .ok (.view s.views.length (w.stretch (lefts ++ (middle ++ rights)) back)) :=
    h.chopRight.1.result
  have htext : textOf (s.step (.chop handle (.last back.length))) = back.flatten := by
    rw [textOf_eq hresult]
    exact h.hasClusters.stretch_back.madeOf.flatten.symm
  refine ⟨List.forall_mem_cons.2 ⟨⟨_, _, hresult⟩, hlater.answered⟩, ?_, ?_, ?_⟩
  · exact Window.stretch_stretch w [] _ lefts middle ▸ hlater.remains
  · rw [textsOff_cons, if_neg (by simp)]
    exact hlater.left
  · rw [textsOff_cons, if_pos rfl, List.reverse_cons, List.flatten_append, List.flatten_append,
      List.flatten_singleton, ← hlater.right, ← htext]
    rfl

/-- Chops whose totals are the lengths of the outer parts take these off. -/
theorem strips (chops : List CountedChop) (h : s.Holds handle w (lefts ++ (middle ++ rights)))
    (hleft : lefts.length = CountedChop.total .left chops)
    (hright : rights.length = CountedChop.total .right chops) :
    s.Strips handle chops w lefts middle rights := by
  induction chops generalizing s w lefts rights with
  | nil =>
      obtain rfl := List.length_eq_zero_iff.1 hleft
      obtain rfl := List.length_eq_zero_iff.1 hright
      rw [List.nil_append, List.append_nil] at h
      exact strips_nil h
  | cons chop later ih =>
      obtain ⟨side, count⟩ := chop
      cases side with
      | left =>
          -- the chop takes the front of the left part, the later ones take the rest of it
          change lefts.length = count + CountedChop.total .left later at hleft
          change rights.length = CountedChop.total .right later at hright
          obtain ⟨front, more, rfl, rfl⟩ : ∃ front more, lefts = front ++ more ∧
              front.length = count :=
            ⟨lefts.take count, lefts.drop count, (List.take_append_drop _ _).symm,
              List.length_take_of_le (by omega)⟩
          rw [List.length_append, Nat.add_left_cancel_iff] at hleft
          rw [List.append_assoc] at h
          exact .chopLeft h (ih h.chopLeft.2 hleft hright)
      | right =>
          -- the chop takes the back of the right part, the later ones take the rest of it
          change lefts.length = CountedChop.total .left later at hleft
          change rights.length = count + CountedChop.total .right later at hright
          obtain ⟨more, back, rfl, rfl⟩ : ∃ more back, rights = more ++ back ∧
              back.length = count :=
            ⟨rights.take (rights.length - count), rights.drop (rights.length - count),
              (List.take_append_drop _ _).symm, by rw [List.length_drop]; omega⟩
          rw [List.length_append, Nat.add_comm, Nat.add_left_cancel_iff] at hright
          rw [← List.append_assoc middle, ← List.append_assoc] at h
          exact .chopRight h (ih h.chopRight.2 hleft hright)

/-- A list can be had in three parts, of which the outer ones are as long as one likes when they are
no longer than the list together. -/
theorem exists_three_parts {α : Type} {items : List α} {front back : Nat}
    (h : front + back ≤ items.length) :
    ∃ lefts middle rights, items = lefts ++ (middle ++ rights) ∧ lefts.length = front ∧
      rights.length = back := by
  refine ⟨items.take front, (items.drop front).take (items.length - front - back),
    (items.drop front).drop (items.length - front - back), ?_, ?_, ?_⟩
  · rw [List.take_append_drop, List.take_append_drop]
  · exact List.length_take_of_le (by omega)
  · simp only [List.length_drop]
    omega

/-- Counted chops add up, in whatever order they come. When chops of numbers of clusters off either
side of a valid view take no more clusters together than the view has, each one answers a view, and
the window that they leave is the slice between the totals that could have been taken beforehand,
also where nothing is left of it. The texts answered for the left side, one after the other, are the
first clusters of the view, and those answered for the right side, the last one first, are its last
clusters. -/
theorem counted_chops_add_up (hview : s.views[handle]? = some view) (hvalid : view.Valid)
    (chops : List CountedChop) :
    let clusters := s.segmenter.clusters view.text
    let steps := chops.map (·.step handle)
    let front := CountedChop.total .left chops
    let back := CountedChop.total .right chops
    let final := view.window.slice clusters (some front) (some (clusters.length - back))
    front + back ≤ clusters.length →
      s.Makes handle (.slice (some front) (some (clusters.length - back)) false) final ∧
      (s.after steps).windows[handle]? = some final ∧
      (∀ reply ∈ s.run steps, ∃ other made, reply.result = .ok (.view other made)) ∧
      (s.textsOff handle .left chops).flatten = (clusters.take front).flatten ∧
      (s.textsOff handle .right chops).reverse.flatten =
        (clusters.drop (clusters.length - back)).flatten := by
  intro clusters steps front back final hsum
  have hholds : s.Holds handle view.window clusters := holds_of_valid hview hvalid
  obtain ⟨lefts, middle, rights, hparts, hfront, hback⟩ := exists_three_parts hsum
  have hmade := (hholds.hasClusters.slice (some front) (some (clusters.length - back))).2
  have hfinal : final = view.window.stretch lefts middle := by
    have hslice := view.window.slice_append lefts middle rights
    rwa [← hparts, hfront, hback] at hslice
  have hleft : clusters.take front = lefts := by
    rw [hparts, ← hfront, List.take_left]
  have hright : clusters.drop (clusters.length - back) = rights := by
    rw [hparts, ← hback, ← List.append_assoc, List.length_append, Nat.add_sub_cancel,
      List.drop_left]
  have hstrips := strips chops (hparts ▸ hholds) hfront hback
  rw [hleft, hright]
  refine ⟨(hholds.derive _ rfl hmade).1, ?_, hstrips.answered, hstrips.left, hstrips.right⟩
  rw [hfinal]
  exact hstrips.remains.windows

/-- Three chops from alternating sides that leave nothing between two flags. -/
theorem counted_chops_add_up_between_flags :
    let source : Text := ['x', 'a', '🇩', '🇪', '🇫', '🇷', 'y', 'z']
    let view := View.ofWindow ⟨source, 1, 6⟩
    let s : Session := { settings := {}, views := [view] }
    let chops : List CountedChop := [⟨.right, 1⟩, ⟨.left, 2⟩, ⟨.right, 1⟩]
    let steps := chops.map (·.step 0)
    s.views[0]? = some view ∧ view.Valid ∧
      CountedChop.total .left chops + CountedChop.total .right chops ≤
        (s.segmenter.clusters view.text).length ∧
      s.Makes 0 (.slice (some 2) (some 2) false) ⟨source, 4, 0⟩ ∧
      (s.after steps).windows[0]? = some ⟨source, 4, 0⟩ ∧
      (∀ reply ∈ s.run steps, ∃ other made, reply.result = .ok (.view other made)) ∧
      (s.textsOff 0 .left chops).flatten = ['a', '🇩', '🇪'] ∧
      (s.textsOff 0 .right chops).reverse.flatten = ['🇫', '🇷', 'y'] := by
  intro source view s chops steps
  have hview : s.views[0]? = some view := rfl
  have hvalid : view.Valid := View.valid_ofWindow (by decide)
  have hclusters : s.segmenter.clusters view.text =
      [['a'], ['🇩', '🇪'], ['🇫', '🇷'], ['y']] := by
    decide
  have hsum : CountedChop.total .left chops + CountedChop.total .right chops ≤
      (s.segmenter.clusters view.text).length := by
    decide
  obtain ⟨hmakes, hleaves, hanswers, hleft, hright⟩ :=
    counted_chops_add_up hview hvalid chops hsum
  rw [hclusters] at hmakes hleaves hleft hright
  exact ⟨hview, hvalid, hsum, hmakes, hleaves, hanswers, hleft, hright⟩

end Session

end TextCursor
