import Mathlib.Data.List.Infix
import Mathlib.Data.Nat.Find

/-!
# Splitting at a separator

A list is split at a separator by taking it apart at the first place where the separator stands, and
what is behind that place in the same way (`Splits`). Each list has exactly one such splitting. Its
parts make up the list again with the separator between them, and the separator stands in none of
them. What a loop collects that ends with nothing left are these parts without an empty last one
(`withoutEmptyLast`), which is a loss of at most one separator at the end.
-/

namespace TextCursor

variable {α : Type} {separator items front back : List α} {parts : List (List α)}

/-- The parts without the last one if that is empty. -/
def withoutEmptyLast (parts : List (List α)) : List (List α) :=
  match parts.getLast? with
  | some [] => parts.dropLast
  | _ => parts

/-- In front of other parts, a part is not the last one. -/
theorem withoutEmptyLast_cons (hparts : parts ≠ []) :
    withoutEmptyLast (front :: parts) = front :: withoutEmptyLast parts := by
  unfold withoutEmptyLast
  rw [List.getLast?_cons_of_ne_nil hparts, List.dropLast_cons_of_ne_nil hparts]
  split <;> rfl

/-- What is left without an empty last part are some of the parts. -/
theorem withoutEmptyLast_subset : withoutEmptyLast parts ⊆ parts := by
  unfold withoutEmptyLast
  split
  · exact List.dropLast_subset _
  · exact List.Subset.refl _

/-- Without an empty last part, the parts with the separator between them are what they were, but
for one separator at the end. -/
theorem intercalate_withoutEmptyLast (separator : List α) (parts : List (List α)) :
    separator.intercalate (withoutEmptyLast parts) = separator.intercalate parts ∨
      separator.intercalate (withoutEmptyLast parts) ++ separator =
        separator.intercalate parts := by
  induction parts with
  | nil => exact .inl rfl
  | cons part later ih =>
      by_cases hlater : later = []
      · subst hlater
        left
        by_cases hpart : part = [] <;> simp [withoutEmptyLast, hpart]
      · rw [withoutEmptyLast_cons hlater, List.intercalate_cons_of_ne_nil hlater]
        by_cases hnothing : withoutEmptyLast later = []
        · -- the other parts are the empty last one, whose separator is the one that is lost
          have hempty : later = [[]] := by
            unfold withoutEmptyLast at hnothing
            split at hnothing
            · next hlast =>
                rw [← List.dropLast_append_getLast? _ hlast, hnothing, List.nil_append]
            · exact absurd hnothing hlater
          subst hempty
          right
          simp [withoutEmptyLast]
        · rw [List.intercalate_cons_of_ne_nil hnothing]
          rcases ih with heq | heq
          · exact .inl (by rw [heq])
          · exact .inr (by rw [← heq, List.append_assoc, List.append_assoc])

variable [BEq α]

/-- These are the parts of the items between the successive first places of the separator: all items
where the separator stands nowhere, otherwise what is in front of its first place, and the parts of
what is behind that. -/
inductive Splits (separator : List α) : List α → List (List α) → Prop where
  | whole {items : List α} (hnowhere : items.dropInfix? separator = none) :
      Splits separator items [items]
  | part {items front back : List α} {parts : List (List α)}
      (hfirst : items.dropInfix? separator = some (front, back))
      (hlater : Splits separator back parts) : Splits separator items (front :: parts)

namespace Splits

/-- A list is split in one way only. -/
theorem unique {others : List (List α)} (h : Splits separator items parts)
    (hothers : Splits separator items others) : others = parts := by
  induction h generalizing others with
  | whole hnowhere =>
      cases hothers with
      | whole => rfl
      | part hfirst => simp [hnowhere] at hfirst
  | part hfirst hlater ih =>
      cases hothers with
      | whole hnowhere => simp [hfirst] at hnowhere
      | part hfirst' hlater' =>
          rw [hfirst, Option.some.injEq, Prod.mk.injEq] at hfirst'
          obtain ⟨rfl, rfl⟩ := hfirst'
          rw [ih hlater']

/-- There is always a part. -/
theorem ne_nil (h : Splits separator items parts) : parts ≠ [] := by
  cases h <;> exact List.cons_ne_nil _ _

end Splits

variable [LawfulBEq α]

/-- Where the separator stands first, no place is further in front. -/
theorem dropInfix?_eq_some_iff_append : items.dropInfix? separator = some (front, back) ↔
    items = front ++ (separator ++ back) ∧
      ∀ before after, items = before ++ (separator ++ after) → front.length ≤ before.length := by
  rw [List.dropInfix?_eq_some_iff]
  constructor
  · rintro ⟨⟨run, hitems, hrun⟩, hleast⟩
    obtain rfl := eq_of_beq hrun
    rw [List.append_assoc] at hitems
    refine ⟨hitems, ?_⟩
    intro before after hplace
    exact hleast before run after (by rw [hplace, List.append_assoc]) hrun
  · rintro ⟨hitems, hleast⟩
    refine ⟨⟨separator, by rw [hitems, List.append_assoc], beq_self_eq_true _⟩, ?_⟩
    intro before run after hplace hrun
    obtain rfl := eq_of_beq hrun
    exact hleast before after (by rw [hplace, List.append_assoc])

/-- Items are found in themselves, with nothing in front of them and nothing behind. -/
theorem dropInfix?_self (items : List α) : items.dropInfix? items = some ([], []) :=
  dropInfix?_eq_some_iff_append.2
    ⟨(List.append_nil items).symm, fun before _ _ => Nat.zero_le before.length⟩

/-- A separator that stands somewhere stands somewhere first. -/
theorem dropInfix?_eq_none_iff : items.dropInfix? separator = none ↔ ¬ separator <:+: items := by
  classical
  rw [← not_iff_not, not_not, ← ne_eq, Option.ne_none_iff_exists']
  constructor
  · rintro ⟨⟨front, back⟩, hfirst⟩
    obtain ⟨hitems, -⟩ := dropInfix?_eq_some_iff_append.1 hfirst
    exact ⟨front, back, by rw [hitems, List.append_assoc]⟩
  · rintro ⟨before, after, hplace⟩
    have hplaces : ∃ n, ∃ front back, items = front ++ (separator ++ back) ∧ front.length = n :=
      ⟨before.length, before, after, by rw [← hplace, List.append_assoc], rfl⟩
    obtain ⟨front, back, hitems, hlength⟩ := Nat.find_spec hplaces
    refine ⟨(front, back), dropInfix?_eq_some_iff_append.2 ⟨hitems, ?_⟩⟩
    intro other rest hother
    rw [hlength]
    exact Nat.find_min' hplaces ⟨other, rest, hother, rfl⟩

namespace Splits

/-- Every list can be split at a separator that is not empty: what is behind a place is shorter. -/
theorem exists_parts (hseparator : separator ≠ []) (items : List α) :
    ∃ parts, Splits separator items parts := by
  induction hn : items.length using Nat.strong_induction_on generalizing items with
  | _ n ih =>
      cases hfirst : items.dropInfix? separator with
      | none => exact ⟨[items], whole hfirst⟩
      | some cut =>
          obtain ⟨front, back⟩ := cut
          obtain ⟨hitems, -⟩ := dropInfix?_eq_some_iff_append.1 hfirst
          have hshorter : back.length < n := by
            have hpos := List.length_pos_iff.2 hseparator
            rw [← hn, hitems, List.length_append, List.length_append]
            omega
          obtain ⟨parts, hparts⟩ := ih _ hshorter back rfl
          exact ⟨front :: parts, part hfirst hparts⟩

/-- The parts with the separator between them are the items again. -/
theorem intercalate_eq (h : Splits separator items parts) :
    separator.intercalate parts = items := by
  induction h with
  | whole => exact List.intercalate_singleton
  | part hfirst hlater ih =>
      obtain ⟨hitems, -⟩ := dropInfix?_eq_some_iff_append.1 hfirst
      rw [List.intercalate_cons_of_ne_nil hlater.ne_nil, ih, hitems, List.append_assoc]

/-- The separator stands in none of the parts: a place in the items in front of a first one would be
one that is further in front. -/
theorem not_infix (h : Splits separator items parts) (hseparator : separator ≠ []) :
    ∀ part ∈ parts, ¬ separator <:+: part := by
  induction h with
  | whole hnowhere =>
      intro part hpart
      rw [List.mem_singleton.1 hpart]
      exact dropInfix?_eq_none_iff.1 hnowhere
  | part hfirst hlater ih =>
      obtain ⟨hitems, hleast⟩ := dropInfix?_eq_some_iff_append.1 hfirst
      intro part hpart
      rcases List.mem_cons.1 hpart with rfl | hpart
      · rintro ⟨before, after, rfl⟩
        have hle := hleast before (after ++ (separator ++ _)) (by
          rw [hitems, List.append_assoc, List.append_assoc])
        have hpos := List.length_pos_iff.2 hseparator
        rw [List.length_append, List.length_append] at hle
        omega
      · exact ih part hpart

end Splits

end TextCursor
