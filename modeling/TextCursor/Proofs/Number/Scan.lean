import Mathlib.Data.Nat.Digits.Defs
import TextCursor.Proofs.Number.Integer
import TextCursor.Proofs.View.Valid

/-!
# The longest numeral in front

A scan goes on as long as clusters continue a number, and only looks for a digit when it has come to
its end. What it finds is the longest numeral that leading clusters of one character each spell
(`Numeral.scan_eq_some_iff`), and it finds none only where there is none
(`Numeral.scan_eq_none_iff`), whatever list of clusters it is given. The reason is that what the
states admit differs from the grammar in one respect only: they do not ask for a digit
(`Numeral.isUnsigned_iff`). So a numeral is never longer than what the scan goes over, and what the
scan goes over is a numeral as soon as it has a digit.

The value of an integer numeral is the positional value of its digits with the sign of the numeral
(`Numeral.toInt?_eq`).
-/

namespace TextCursor

namespace Numeral

/-- A number without its sign. It has a digit; numbers that may have a point have it behind, between
or in front of their digits. -/
inductive IsUnsigned : NumberKind → Text → Prop where
  | digits (kind : NumberKind) {digits : Text} :
      AreDigits digits → digits ≠ [] → IsUnsigned kind digits
  | pointed {whole fraction : Text} :
      AreDigits whole → whole ≠ [] → AreDigits fraction →
      IsUnsigned .fractional (whole ++ '.' :: fraction)
  | leadingPoint {fraction : Text} :
      AreDigits fraction → fraction ≠ [] → IsUnsigned .fractional ('.' :: fraction)

/-- A numeral: a sign or none, and a number without a sign. -/
def IsNumeral (kind : NumberKind) (word : Text) : Prop :=
  ∃ sign body, word = sign ++ body ∧ IsSign sign ∧ IsUnsigned kind body

/-- The numeral is what some leading clusters spell, each of which is one character. -/
def Leads (kind : NumberKind) (clusters : List Text) (numeral : Text) : Prop :=
  IsNumeral kind numeral ∧
    ∃ front, front <+: clusters ∧ (∀ cluster ∈ front, cluster.length = 1) ∧
      front.flatten = numeral

/-- What may stand of a number behind its sign while no digit has been asked for. -/
inductive IsOpen : NumberKind → Text → Prop where
  | digits (kind : NumberKind) {digits : Text} : AreDigits digits → IsOpen kind digits
  | pointed {whole fraction : Text} :
      AreDigits whole → AreDigits fraction → IsOpen .fractional (whole ++ '.' :: fraction)

variable {kind : NumberKind} {c : Char} {word body : Text}

/-- Digits in front of a text. -/
theorem areDigits_cons : AreDigits (c :: word) ↔ c.isDigit ∧ AreDigits word :=
  List.forall_mem_cons

/-- The empty text has digits only. -/
theorem areDigits_nil : AreDigits [] := by
  intro c hc
  cases hc

/-- A text of digits has a digit when it is not empty. -/
theorem AreDigits.any_isDigit (h : AreDigits word) : word.any Char.isDigit ↔ word ≠ [] := by
  cases word with
  | nil => simp
  | cons c later => simp [h c List.mem_cons_self]

/-- A number without its sign is what may stand behind a sign, if it has a digit. -/
theorem isUnsigned_iff : IsUnsigned kind body ↔ IsOpen kind body ∧ body.any Char.isDigit := by
  constructor
  · intro h
    cases h with
    | digits _ hdigits hne => exact ⟨.digits _ hdigits, hdigits.any_isDigit.2 hne⟩
    | pointed hwhole hne hfraction =>
        refine ⟨.pointed hwhole hfraction, ?_⟩
        rw [List.any_append, hwhole.any_isDigit.2 hne, Bool.true_or]
    | leadingPoint hfraction hne =>
        refine ⟨.pointed areDigits_nil hfraction, ?_⟩
        rw [List.any_cons, hfraction.any_isDigit.2 hne, Bool.or_true]
  · rintro ⟨hopen, hany⟩
    cases hopen with
    | digits _ hdigits => exact .digits _ hdigits (hdigits.any_isDigit.1 hany)
    | @pointed whole fraction hwhole hfraction =>
        cases whole with
        | nil =>
            have hpoint : ('.').isDigit = false := rfl
            rw [List.nil_append, List.any_cons, hpoint, Bool.false_or] at hany
            exact .leadingPoint hfraction (hfraction.any_isDigit.1 hany)
        | cons c later => exact .pointed hwhole (List.cons_ne_nil _ _) hfraction

/-- What may stand behind a sign begins with a digit, and what follows may stand there too, or with
the point. -/
theorem isOpen_cons_iff : IsOpen kind (c :: word) ↔
    (c.isDigit ∧ IsOpen kind word) ∨ (kind = .fractional ∧ c = '.' ∧ AreDigits word) := by
  constructor
  · intro h
    generalize htext : c :: word = text at h
    cases h with
    | digits _ hdigits =>
        subst htext
        obtain ⟨hc, hword⟩ := areDigits_cons.1 hdigits
        exact .inl ⟨hc, .digits _ hword⟩
    | @pointed whole fraction hwhole hfraction =>
        cases whole with
        | nil =>
            obtain ⟨rfl, rfl⟩ := List.cons.inj htext
            exact .inr ⟨rfl, rfl, hfraction⟩
        | cons d later =>
            obtain ⟨rfl, rfl⟩ := List.cons.inj htext
            obtain ⟨hc, hlater⟩ := areDigits_cons.1 hwhole
            exact .inl ⟨hc, .pointed hlater hfraction⟩
  · rintro (⟨hc, hword⟩ | ⟨rfl, rfl, hword⟩)
    · cases hword with
      | digits _ hdigits => exact .digits _ (areDigits_cons.2 ⟨hc, hdigits⟩)
      | pointed hwhole hfraction => exact .pointed (areDigits_cons.2 ⟨hc, hwhole⟩) hfraction
    · exact .pointed areDigits_nil hword

end Numeral

namespace NumberState

open Numeral

variable {kind : NumberKind} {state : NumberState} {c : Char} {word : Text}

/-- What may still be read of a number in the given state, while no digit is asked for. -/
def Admits (kind : NumberKind) : NumberState → Text → Prop
  | start, word => ∃ sign body, word = sign ++ body ∧ IsSign sign ∧ IsOpen kind body
  | sign, word => IsOpen kind word
  | integer, word => IsOpen kind word
  | fraction, word => AreDigits word

/-- Only a cluster of one character continues a number. -/
theorem exists_single_of_next {cluster : Text} {following : NumberState}
    (h : state.next kind cluster = some following) : ∃ c, cluster = [c] := by
  unfold next at h
  split at h
  · next hsign => rcases hsign.2 with rfl | rfl <;> exact ⟨_, rfl⟩
  · split at h
    · next hdigit =>
        unfold Cluster.isDigit at hdigit
        split at hdigit
        · exact ⟨_, rfl⟩
        · cases hdigit
    · split at h
      · next hpoint => exact ⟨'.', hpoint.2.2⟩
      · cases h

/-- Behind the point only digits are read. -/
theorem fraction_next (kind : NumberKind) (c : Char) :
    fraction.next kind [c] = if c.isDigit then some fraction else none := by
  have hdigit : Cluster.isDigit [c] = c.isDigit := rfl
  simp [next, hdigit]

/-- Behind a sign or digits, digits are read and perhaps the point. -/
theorem next_of_signed (h : state = sign ∨ state = integer) :
    state.next kind [c] =
      if c.isDigit then some integer
      else if kind = .fractional ∧ c = '.' then some fraction else none := by
  have hdigit : Cluster.isDigit [c] = c.isDigit := rfl
  rcases h with rfl | rfl <;> simp [next, hdigit]

/-- At the start, a sign may be read, and otherwise what may be read behind one. -/
theorem start_next (kind : NumberKind) (c : Char) :
    start.next kind [c] = if c = '+' ∨ c = '-' then some sign else sign.next kind [c] := by
  by_cases hc : c = '+' ∨ c = '-'
  · simp [next, hc]
  · simp [next, hc]

/-- Behind a sign or digits, the text that is admitted is the one whose first character is read and
whose rest is admitted then. -/
theorem isOpen_cons_iff_next (h : state = sign ∨ state = integer) :
    IsOpen kind (c :: word) ↔
      ∃ following, state.next kind [c] = some following ∧ following.Admits kind word := by
  rw [isOpen_cons_iff, next_of_signed h]
  have hpoint : ('.').isDigit = false := rfl
  by_cases hc : c.isDigit
  · have hne : c ≠ '.' := by
      rintro rfl
      cases hc
    simp [hc, hne, Admits]
  · by_cases hpointed : kind = .fractional ∧ c = '.'
    · obtain ⟨rfl, rfl⟩ := hpointed
      simp [hpoint, Admits]
    · have hnot : ¬ (kind = .fractional ∧ c = '.' ∧ AreDigits word) :=
        fun hall => hpointed ⟨hall.1, hall.2.1⟩
      simp [hc, hpointed, hnot]

/-- The empty text is admitted in every state. -/
theorem admits_nil (kind : NumberKind) (state : NumberState) : state.Admits kind [] := by
  cases state with
  | start => exact ⟨[], [], rfl, .inl rfl, .digits _ areDigits_nil⟩
  | sign | integer => exact .digits _ areDigits_nil
  | fraction => exact areDigits_nil

/-- A text is admitted when its first character continues the number and its rest is admitted
behind that. -/
theorem admits_cons_iff : state.Admits kind (c :: word) ↔
    ∃ following, state.next kind [c] = some following ∧ following.Admits kind word := by
  cases state with
  | sign => exact isOpen_cons_iff_next (.inl rfl)
  | integer => exact isOpen_cons_iff_next (.inr rfl)
  | fraction =>
      rw [fraction_next, Admits, areDigits_cons]
      by_cases hc : c.isDigit <;> simp [hc, Admits]
  | start =>
      rw [start_next]
      by_cases hc : c = '+' ∨ c = '-'
      · -- a sign is neither a digit nor the point, so it is not part of the body
        have hbody : ¬ IsOpen kind (c :: word) := by
          rw [isOpen_cons_iff]
          rcases hc with rfl | rfl <;> simp
        rw [if_pos hc]
        constructor
        · rintro ⟨before, body, htext, hsign, hopen⟩
          rcases hsign with rfl | rfl | rfl
          · exact absurd (htext ▸ hopen) hbody
          all_goals
            obtain ⟨-, rfl⟩ := List.cons.inj htext
            exact ⟨sign, rfl, hopen⟩
        · rintro ⟨following, hfollowing, hadmits⟩
          cases hfollowing
          refine ⟨[c], word, rfl, ?_, hadmits⟩
          rcases hc with rfl | rfl
          · exact .inr (.inl rfl)
          · exact .inr (.inr rfl)
      · rw [if_neg hc, ← isOpen_cons_iff_next (.inl rfl)]
        constructor
        · rintro ⟨before, body, htext, hsign, hopen⟩
          rcases hsign with rfl | rfl | rfl
          · exact htext ▸ hopen
          · exact absurd (.inl (List.cons.inj htext).1) hc
          · exact absurd (.inr (List.cons.inj htext).1) hc
        · intro hopen
          exact ⟨[], c :: word, rfl, .inl rfl, hopen⟩

end NumberState

namespace Numeral

variable {kind : NumberKind} {state : NumberState} {clusters : List Text} {numeral word : Text}

/-- A numeral is a text that is admitted at the start and has a digit. -/
theorem isNumeral_iff :
    IsNumeral kind word ↔ NumberState.start.Admits kind word ∧ word.any Char.isDigit := by
  have hsigned : ∀ {sign body : Text}, IsSign sign →
      ((sign ++ body).any Char.isDigit ↔ body.any Char.isDigit) := by
    rintro sign body (rfl | rfl | rfl)
    · rfl
    · rfl
    · rfl
  constructor
  · rintro ⟨sign, body, rfl, hsign, hbody⟩
    obtain ⟨hopen, hany⟩ := isUnsigned_iff.1 hbody
    exact ⟨⟨sign, body, rfl, hsign, hopen⟩, (hsigned hsign).2 hany⟩
  · rintro ⟨⟨sign, body, rfl, hsign, hopen⟩, hany⟩
    exact ⟨sign, body, rfl, hsign, isUnsigned_iff.2 ⟨hopen, (hsigned hsign).1 hany⟩⟩

/-- Clusters of one character each are the characters of the text that they make up. -/
theorem eq_map_flatten {front : List Text} (h : ∀ cluster ∈ front, cluster.length = 1) :
    front = front.flatten.map ([·]) := by
  induction front with
  | nil => rfl
  | cons cluster later ih =>
      obtain ⟨hcluster, hlater⟩ := List.forall_mem_cons.1 h
      obtain ⟨c, rfl⟩ := List.length_eq_one_iff.1 hcluster
      rw [List.flatten_cons, List.map_append, ← ih hlater]
      rfl

/-- What leads is a numeral whose characters are the leading clusters. -/
theorem leads_iff : Leads kind clusters word ↔
    IsNumeral kind word ∧ word.map ([·]) <+: clusters := by
  constructor
  · rintro ⟨hnumeral, front, hleading, hsingle, rfl⟩
    rw [← eq_map_flatten hsingle]
    exact ⟨hnumeral, hleading⟩
  · rintro ⟨hnumeral, hleading⟩
    refine ⟨hnumeral, _, hleading, ?_, Text.flatten_map_singleton word⟩
    intro cluster hcluster
    obtain ⟨c, -, rfl⟩ := List.mem_map.1 hcluster
    rfl

/-- What the scan goes over consists of single characters, and the state admits them. -/
theorem accepted_admits (kind : NumberKind) (state : NumberState) (clusters : List Text) :
    ∃ word, accepted kind state clusters = word.map ([·]) ∧ state.Admits kind word := by
  induction clusters generalizing state with
  | nil => exact ⟨[], rfl, NumberState.admits_nil kind state⟩
  | cons cluster later ih =>
      rw [accepted]
      cases hnext : state.next kind cluster with
      | none => exact ⟨[], rfl, NumberState.admits_nil kind state⟩
      | some following =>
          obtain ⟨word, hword, hadmits⟩ := ih following
          obtain ⟨c, rfl⟩ := NumberState.exists_single_of_next hnext
          refine ⟨c :: word, ?_, NumberState.admits_cons_iff.2 ⟨following, hnext, hadmits⟩⟩
          show [c] :: accepted kind following later = _
          rw [hword]
          rfl

/-- The scan goes at least as far as any text that the state admits and whose characters are the
leading clusters. -/
theorem isPrefix_accepted (hadmits : state.Admits kind word)
    (hleading : word.map ([·]) <+: clusters) :
    word.map ([·]) <+: accepted kind state clusters := by
  induction word generalizing state clusters with
  | nil => exact List.nil_prefix
  | cons c later ih =>
      obtain ⟨following, hnext, hlater⟩ := NumberState.admits_cons_iff.1 hadmits
      cases clusters with
      | nil => exact absurd (List.prefix_nil.1 hleading) (List.cons_ne_nil _ _)
      | cons cluster others =>
          obtain ⟨rfl, hothers⟩ := List.cons_prefix_cons.1 hleading
          rw [accepted, hnext]
          exact List.cons_prefix_cons.2 ⟨rfl, ih hlater hothers⟩

/-- A numeral that leads is the front of what the scan goes over. -/
theorem Leads.isPrefix (h : Leads kind clusters word) :
    word <+: (accepted kind .start clusters).flatten := by
  obtain ⟨hnumeral, hleading⟩ := leads_iff.1 h
  obtain ⟨rest, hrest⟩ := isPrefix_accepted (isNumeral_iff.1 hnumeral).1 hleading
  rw [← hrest, List.flatten_append, Text.flatten_map_singleton]
  exact List.prefix_append _ _

/-- What the scan goes over leads as soon as it has a digit. -/
theorem leads_accepted (h : (accepted kind .start clusters).flatten.any Char.isDigit) :
    Leads kind clusters (accepted kind .start clusters).flatten := by
  obtain ⟨word, hword, hadmits⟩ := accepted_admits kind .start clusters
  have hleading := accepted_isPrefix kind .start clusters
  rw [hword, Text.flatten_map_singleton] at h ⊢
  rw [hword] at hleading
  exact leads_iff.2 ⟨isNumeral_iff.2 ⟨hadmits, h⟩, hleading⟩

/-- A scan finds a numeral exactly when it leads and no numeral that leads is longer. -/
theorem scan_eq_some_iff : scan kind clusters = some numeral ↔
    Leads kind clusters numeral ∧
      ∀ other, Leads kind clusters other → other.length ≤ numeral.length := by
  constructor
  · intro h
    simp only [scan, Option.ite_none_right_eq_some, Option.some.injEq] at h
    obtain ⟨hany, rfl⟩ := h
    exact ⟨leads_accepted hany, fun other hother => hother.isPrefix.length_le⟩
  · rintro ⟨hleads, hlongest⟩
    -- a numeral has a digit, so what the scan goes over has one, and leads itself
    have hleading := hleads.isPrefix
    have hany : (accepted kind .start clusters).flatten.any Char.isDigit := by
      obtain ⟨rest, hrest⟩ := hleading
      rw [← hrest, List.any_append, (isNumeral_iff.1 hleads.1).2, Bool.true_or]
    have hlength := hlongest _ (leads_accepted hany)
    rw [scan, if_pos hany, hleading.eq_of_length_le hlength]

/-- A scan finds nothing exactly when no numeral leads. -/
theorem scan_eq_none_iff : scan kind clusters = none ↔ ∀ word, ¬ Leads kind clusters word := by
  constructor
  · intro h word hleads
    obtain ⟨rest, hrest⟩ := hleads.isPrefix
    have hany : (accepted kind .start clusters).flatten.any Char.isDigit := by
      rw [← hrest, List.any_append, (isNumeral_iff.1 hleads.1).2, Bool.true_or]
    rw [scan, if_pos hany] at h
    cases h
  · intro h
    rw [scan, if_neg]
    exact fun hany => h _ (leads_accepted hany)

/-- The decimal digits of a numeral, without its sign and its point. -/
def digits (numeral : Text) : Text :=
  numeral.filter Char.isDigit

/-- The number that one decimal digit stands for. -/
def digitValue (c : Char) : Nat :=
  c.toNat - '0'.toNat

/-- The number that an integer numeral writes: each digit counts the power of ten of its place, the
last one counts ones, and a minus sign in front makes the number negative. -/
def wholeValue (numeral : Text) : Int :=
  let magnitude : Nat := Nat.ofDigits 10 ((digits numeral).reverse.map digitValue)
  (if numeral.head? = some '-' then -1 else 1) * magnitude

/-- The value of digits is positional: each one counts the power of ten of its place, and the last
one counts ones. -/
theorem value_eq_ofDigits (digits : Text) :
    value digits = Nat.ofDigits 10 (digits.reverse.map digitValue) := by
  induction digits using List.reverseRecOn with
  | nil => rfl
  | append_singleton front c ih =>
      have hvalue : value (front ++ [c]) = 10 * value front + digitValue c := by
        unfold value
        rw [List.foldl_append]
        rfl
      rw [hvalue, ih, List.reverse_append]
      show _ = Nat.ofDigits 10 (digitValue c :: front.reverse.map digitValue)
      rw [Nat.ofDigits_cons]
      omega

/-- Without its sign, an integer numeral is its digits. -/
theorem unsigned_eq_digits (h : IsNumeral .whole numeral) : unsigned numeral = digits numeral := by
  obtain ⟨sign, body, rfl, hsign, hbody⟩ := h
  cases hbody with
  | digits _ hdigits =>
      have hbody : digits body = body := List.filter_eq_self.2 hdigits
      rcases hsign with rfl | rfl | rfl
      · rw [List.nil_append, unsigned_digits hdigits, hbody]
      · exact hbody.symm
      · exact hbody.symm

/-- An integer numeral is converted to the number that it writes, unless it has too many digits. -/
theorem toInt?_eq (h : IsNumeral .whole numeral) :
    toInt? numeral =
      if digitLimit < (digits numeral).length then none else some (wholeValue numeral) := by
  rw [toInt?, unsigned_eq_digits h, value_eq_ofDigits, isNegative, wholeValue]
  by_cases hsign : numeral.head? = some '-' <;> simp [hsign]

end Numeral

end TextCursor
