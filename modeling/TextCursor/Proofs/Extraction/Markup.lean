import Mathlib.Data.List.Infix
import TextCursor.Extraction.Markup
import TextCursor.Proofs.Except

/-!
# The grammar of template markup

`Markup.Spells` says which texts are templates, and of which items, without a reader: the text is
cut into pieces, each of which is written as one item. Names may have indices, in which only the
closing bracket counts; the braces of a specification balance. `Markup.items_eq_ok_iff` shows that
the reader accepts exactly these texts and answers their items. In one direction, the reader keeps
at each place what it has read of the piece that is still open (`Place.pending`), and each character
adds to it (`Place.next_spells`). In the other one, each part of a placeholder takes the reader from
one place to the next.
-/

namespace TextCursor.Markup

/-- The character has no meaning of its own in the name of a placeholder. -/
def IsPlain (c : Char) : Prop :=
  c ≠ opening ∧ c ≠ '[' ∧ c ≠ closing ∧ c ≠ ':' ∧ c ≠ '!'

/-- Whether a character is plain is decided by comparison. -/
instance (c : Char) : Decidable (IsPlain c) :=
  inferInstanceAs (Decidable (_ ∧ _))

/-- The text can stand for the name of a placeholder: plain characters and indices. -/
inductive Name : Text → Prop where
  | nil : Name []
  | plain {c : Char} {rest : Text} : IsPlain c → Name rest → Name (c :: rest)
  | index {inside rest : Text} :
      ']' ∉ inside → Name rest → Name ('[' :: (inside ++ ']' :: rest))

/-- Each closing brace of the text closes one that is open, and so many stay open. -/
structure LeavesOpen (depth : Nat) (text : Text) : Prop where
  count : text.count opening = text.count closing + depth
  closes : ∀ front, front <+: text → front.count closing ≤ front.count opening

/-- A conversion as it is written. -/
def markText : Option Char → Text
  | none => []
  | some c => ['!', c]

/-- The text is what is written between the braces of the placeholder. -/
inductive Field : Placeholder → Text → Prop where
  | bare {name : Text} {mark : Option Char} :
      Name name → Field ⟨name, mark, []⟩ (name ++ markText mark)
  | specified {name : Text} {mark : Option Char} {spec : Text} :
      Name name → LeavesOpen 0 spec →
      Field ⟨name, mark, spec⟩ (name ++ (markText mark ++ ':' :: spec))

/-- The text is what is written for the item. -/
inductive Written : Item → Text → Prop where
  | char {c : Char} : c ≠ opening → c ≠ closing → Written (.char c) [c]
  | doubled {c : Char} : c = opening ∨ c = closing → Written (.char c) [c, c]
  | placeholder {p : Placeholder} {text : Text} :
      Field p text → Written (.placeholder p) (opening :: (text ++ [closing]))

/-- The text is what is written for the items, one after the other. -/
inductive Spells : List Item → Text → Prop where
  | nil : Spells [] []
  | cons {item : Item} {items : List Item} {front rest : Text} :
      Written item front → Spells items rest → Spells (item :: items) (front ++ rest)

/-- Two names after one another are a name. -/
theorem Name.append {front back : Text} (h : Name front) (hback : Name back) :
    Name (front ++ back) := by
  induction h with
  | nil => exact hback
  | plain hc _ ih => exact .plain hc ih
  | index hinside _ ih =>
      rw [List.cons_append, List.append_assoc, List.cons_append]
      exact .index hinside ih

/-- A text of plain characters is a name. -/
theorem name_of_plain {text : Text} (h : ∀ c ∈ text, IsPlain c) : Name text := by
  induction text with
  | nil => exact .nil
  | cons c rest ih =>
      exact .plain (h c List.mem_cons_self) (ih fun d hd => h d (List.mem_cons_of_mem c hd))

namespace LeavesOpen

variable {depth : Nat} {text : Text}

/-- No brace is open in the empty text. -/
theorem nil : LeavesOpen 0 [] where
  count := rfl
  closes := by
    intro front hfront
    obtain rfl := List.prefix_nil.1 hfront
    exact Nat.le_refl _

/-- One more character leaves as many braces open as the counts say, if they still say so. -/
theorem concat (h : LeavesOpen depth text) {c : Char} {later : Nat}
    (hcount : (text ++ [c]).count opening = (text ++ [c]).count closing + later) :
    LeavesOpen later (text ++ [c]) where
  count := hcount
  closes := by
    intro front hfront
    rcases List.prefix_concat_iff.1 hfront with rfl | hfront
    · rw [hcount]
      exact Nat.le_add_right _ _
    · exact h.closes front hfront

/-- An opening brace leaves one more open. -/
theorem opened (h : LeavesOpen depth text) : LeavesOpen (depth + 1) (text ++ [opening]) := by
  apply h.concat
  have hcount := h.count
  simp [List.count_append, opening, closing] at *
  omega

/-- A closing brace leaves one less open. -/
theorem closed (h : LeavesOpen (depth + 1) text) : LeavesOpen depth (text ++ [closing]) := by
  apply h.concat
  have hcount := h.count
  simp [List.count_append, opening, closing] at *
  omega

/-- Any other character leaves as many open. -/
theorem other (h : LeavesOpen depth text) {c : Char} (hopening : c ≠ opening)
    (hclosing : c ≠ closing) : LeavesOpen depth (text ++ [c]) := by
  apply h.concat
  have hcount := h.count
  rw [List.count_append, List.count_append, List.count_singleton, List.count_singleton]
  simpa [hopening, hclosing] using hcount

end LeavesOpen

/-- What has been read of the piece that is still open at the place. -/
def Place.pending : Place → Text
  | .text => []
  | .opened => [opening]
  | .closed => [closing]
  | .name read | .index read => opening :: read.reverse
  | .conversion field => opening :: (field ++ ['!'])
  | .converted field mark => opening :: (field ++ markText mark)
  | .spec field mark _ read => opening :: (field ++ (markText mark ++ ':' :: read.reverse))

/-- What has been read at the place can go on to be a placeholder. -/
def Place.Sound : Place → Prop
  | .text | .opened | .closed => True
  | .name read => Name read.reverse
  | .index read =>
      ∃ front inside, Name front ∧ ']' ∉ inside ∧ read.reverse = front ++ '[' :: inside
  | .conversion field | .converted field _ => Name field
  | .spec field _ depth read => Name field ∧ LeavesOpen depth read.reverse

/-- What a step makes of the text that has been read: all of it is open at the place behind the
step, or it is what is written for the item that the step completes. -/
def StepSpells (read : Text) : Place × Option Item → Prop
  | (following, none) => following.Sound ∧ following.pending = read
  | (following, some item) => following = .text ∧ Written item read

/-- A step in a name goes on with the name or completes it. -/
theorem nameStep_spells {read : Text} (hname : Name read.reverse) {c : Char}
    {outcome : Place × Option Item} (h : nameStep read c = .ok outcome) :
    StepSpells (opening :: read.reverse ++ [c]) outcome := by
  unfold nameStep at h
  split at h
  · cases h
  next hopening =>
  split at h
  · next hbracket =>
      cases h
      subst hbracket
      exact ⟨⟨_, [], hname, List.not_mem_nil, List.reverse_cons⟩, by simp [Place.pending]⟩
  next hbracket =>
  split at h
  · next hclosing =>
      cases h
      subst hclosing
      have hfield : Field ⟨read.reverse, none, []⟩ (read.reverse ++ []) := .bare hname
      rw [List.append_nil] at hfield
      exact ⟨rfl, .placeholder hfield⟩
  next hclosing =>
  split at h
  · next hcolon =>
      cases h
      subst hcolon
      exact ⟨⟨hname, .nil⟩, by simp [Place.pending, markText]⟩
  next hcolon =>
  split at h
  · next hmark =>
      cases h
      subst hmark
      exact ⟨hname, by simp [Place.pending]⟩
  · next hmark =>
      cases h
      have hplain : IsPlain c := ⟨hopening, hbracket, hclosing, hcolon, hmark⟩
      have hlonger : Name (c :: read).reverse := by
        rw [List.reverse_cons]
        exact hname.append (.plain hplain .nil)
      exact ⟨hlonger, by simp [Place.pending]⟩

/-- A step in a specification goes on with it or completes the placeholder. -/
theorem Place.spec_next_spells {field read : Text} {mark : Option Char} {depth : Nat}
    (hfield : Name field) (hread : LeavesOpen depth read.reverse) {c : Char}
    {outcome : Place × Option Item} (h : (Place.spec field mark depth read).next c = .ok outcome) :
    StepSpells ((Place.spec field mark depth read).pending ++ [c]) outcome := by
  have hpending : ∀ later, (Place.spec field mark later (c :: read)).pending =
      (Place.spec field mark depth read).pending ++ [c] := by
    intro later
    simp [pending]
  simp only [next] at h
  split at h
  · next hopening =>
      cases h
      subst hopening
      refine ⟨⟨hfield, ?_⟩, hpending _⟩
      rw [List.reverse_cons]
      exact hread.opened
  next hopening =>
  split at h
  · next hclosing =>
      subst hclosing
      cases depth with
      | zero =>
          cases h
          exact ⟨rfl, .placeholder (.specified hfield hread)⟩
      | succ outer =>
          cases h
          refine ⟨⟨hfield, ?_⟩, hpending _⟩
          rw [List.reverse_cons]
          exact hread.closed
  · next hclosing =>
      cases h
      refine ⟨⟨hfield, ?_⟩, hpending _⟩
      rw [List.reverse_cons]
      exact hread.other hopening hclosing

/-- A step of the reader adds the character to what is open, or completes an item with it. -/
theorem Place.next_spells {place : Place} (hplace : place.Sound) {c : Char} (hnull : c ≠ '\x00')
    {outcome : Place × Option Item} (h : place.next c = .ok outcome) :
    StepSpells (place.pending ++ [c]) outcome := by
  cases place with
  | text =>
      simp only [next] at h
      split at h
      · next hopening =>
          cases h
          exact ⟨trivial, by rw [hopening]; rfl⟩
      next hopening =>
      split at h
      · next hclosing =>
          cases h
          exact ⟨trivial, by rw [hclosing]; rfl⟩
      · next hclosing =>
          cases h
          exact ⟨rfl, .char hopening hclosing⟩
  | opened =>
      simp only [next] at h
      split at h
      · next hopening =>
          cases h
          subst hopening
          exact ⟨rfl, .doubled (.inl rfl)⟩
      · have hstart : Name (List.reverse []) := .nil
        exact nameStep_spells hstart h
  | closed =>
      simp only [next] at h
      split at h
      · next hclosing =>
          cases h
          subst hclosing
          exact ⟨rfl, .doubled (.inr rfl)⟩
      · cases h
  | name read => exact nameStep_spells hplace h
  | index read =>
      obtain ⟨name, inside, hname, hinside, hread⟩ := hplace
      simp only [next] at h
      split at h
      · next hbracket =>
          cases h
          subst hbracket
          refine ⟨?_, by simp [pending]⟩
          show Name (']' :: read).reverse
          rw [List.reverse_cons, hread, List.append_assoc]
          exact hname.append (.index hinside .nil)
      · next hbracket =>
          cases h
          refine ⟨⟨name, inside ++ [c], hname, ?_, ?_⟩, by simp [pending]⟩
          · simp [hinside, Ne.symm hbracket]
          · rw [List.reverse_cons, hread, List.append_assoc, List.cons_append]
  | conversion field =>
      simp only [next, if_neg hnull] at h
      cases h
      exact ⟨hplace, by simp [pending, markText]⟩
  | converted field mark =>
      simp only [next] at h
      split at h
      · next hclosing =>
          cases h
          subst hclosing
          exact ⟨rfl, .placeholder (.bare hplace)⟩
      next hclosing =>
      split at h
      · next hcolon =>
          cases h
          subst hcolon
          exact ⟨⟨hplace, .nil⟩, by simp [pending]⟩
      · cases h
  | spec field mark depth read => exact spec_next_spells hplace.1 hplace.2 h

/-- Where the reader accepts a text, what was open and the text spell the items. -/
theorem spells_of_itemsFrom {place : Place} {text : Text} {items : List Item}
    (hplace : place.Sound) (hnull : '\x00' ∉ text) (h : itemsFrom place text = .ok items) :
    Spells items (place.pending ++ text) := by
  -- a character moves from the text to what is open at the place, or completes an item, behind
  -- which nothing is open
  induction text generalizing place items with
  | nil =>
      rw [itemsFrom] at h
      cases place with
      | text =>
          cases h
          exact .nil
      | opened | closed | name | index | conversion | converted | spec => cases h
  | cons c rest ih =>
      obtain ⟨hc, hrest⟩ := List.ne_and_not_mem_of_not_mem_cons hnull
      rw [itemsFrom] at h
      cases hstep : place.next c with
      | error fault => simp [hstep] at h
      | ok outcome =>
          obtain ⟨following, completed⟩ := outcome
          have hspells := Place.next_spells hplace hc.symm hstep
          simp only [hstep] at h
          obtain ⟨later, hlater, rfl⟩ := Except.map_eq_ok_iff.1 h
          cases completed with
          | none =>
              obtain ⟨hfollowing, hpending⟩ := hspells
              have hall := ih hfollowing hrest hlater
              rw [hpending, List.append_assoc] at hall
              exact hall
          | some item =>
              obtain ⟨rfl, hwritten⟩ := hspells
              have htext : Place.text.Sound := trivial
              have hall := Spells.cons hwritten (ih htext hrest hlater)
              rw [List.append_assoc] at hall
              exact hall

/-- Behind a step that completes no item, the reader goes on. -/
theorem itemsFrom_step {place following : Place} {c : Char}
    (h : place.next c = .ok (following, none)) (rest : Text) :
    itemsFrom place (c :: rest) = itemsFrom following rest := by
  rw [itemsFrom, h]
  show (itemsFrom following rest).map ([] ++ ·) = itemsFrom following rest
  cases itemsFrom following rest <;> rfl

/-- Behind a step that completes an item, the reader goes on with the items that follow. -/
theorem itemsFrom_complete {place following : Place} {c : Char} {item : Item}
    (h : place.next c = .ok (following, some item)) (rest : Text) :
    itemsFrom place (c :: rest) = (itemsFrom following rest).map (item :: ·) := by
  rw [itemsFrom, h]
  rfl

/-- The reader passes over an index. -/
theorem itemsFrom_index {inside : Text} (h : ']' ∉ inside) (read rest : Text) :
    itemsFrom (.index read) (inside ++ ']' :: rest) =
      itemsFrom (.name (']' :: (inside.reverse ++ read))) rest := by
  induction inside generalizing read with
  | nil => exact itemsFrom_step rfl rest
  | cons c later ih =>
      obtain ⟨hc, hlater⟩ := List.ne_and_not_mem_of_not_mem_cons h
      have hstep : (Place.index read).next c = .ok (.index (c :: read), none) := by
        simp only [Place.next, if_neg hc.symm]
      rw [List.cons_append, itemsFrom_step hstep, ih hlater, List.reverse_cons, List.append_assoc]
      rfl

/-- The reader passes over a name. -/
theorem itemsFrom_name {name : Text} (h : Name name) (read rest : Text) :
    itemsFrom (.name read) (name ++ rest) = itemsFrom (.name (name.reverse ++ read)) rest := by
  induction h generalizing read with
  | nil => rfl
  | @plain c later hc _ ih =>
      obtain ⟨hopening, hbracket, hclosing, hcolon, hmark⟩ := hc
      have hstep : (Place.name read).next c = .ok (.name (c :: read), none) := by
        simp only [Place.next, nameStep, if_neg hopening, if_neg hbracket, if_neg hclosing,
          if_neg hcolon, if_neg hmark]
      rw [List.cons_append, itemsFrom_step hstep, ih, List.reverse_cons, List.append_assoc]
      rfl
  | index hinside _ ih =>
      have hstep : (Place.name read).next '[' = .ok (.index ('[' :: read), none) := rfl
      rw [List.cons_append, itemsFrom_step hstep, List.append_assoc, List.cons_append,
        itemsFrom_index hinside, ih]
      simp

/-- The reader passes over a conversion to the brace that closes the placeholder. -/
theorem itemsFrom_markText_closing {mark : Option Char} (hnull : mark ≠ some '\x00')
    (read rest : Text) :
    itemsFrom (.name read) (markText mark ++ closing :: rest) =
      (itemsFrom .text rest).map (.placeholder ⟨read.reverse, mark, []⟩ :: ·) := by
  cases mark with
  | none => exact itemsFrom_complete rfl rest
  | some c =>
      have hc : c ≠ '\x00' := fun hc => hnull (congrArg some hc)
      have hstep : (Place.conversion read.reverse).next c =
          .ok (.converted read.reverse (some c), none) := by
        simp only [Place.next, if_neg hc]
      show itemsFrom (.name read) ('!' :: c :: closing :: rest) = _
      rw [itemsFrom_step rfl, itemsFrom_step hstep]
      exact itemsFrom_complete rfl rest

/-- The reader passes over a conversion to the specification. -/
theorem itemsFrom_markText_colon {mark : Option Char} (hnull : mark ≠ some '\x00')
    (read rest : Text) :
    itemsFrom (.name read) (markText mark ++ ':' :: rest) =
      itemsFrom (.spec read.reverse mark 0 []) rest := by
  cases mark with
  | none => exact itemsFrom_step rfl rest
  | some c =>
      have hc : c ≠ '\x00' := fun hc => hnull (congrArg some hc)
      have hstep : (Place.conversion read.reverse).next c =
          .ok (.converted read.reverse (some c), none) := by
        simp only [Place.next, if_neg hc]
      show itemsFrom (.name read) ('!' :: c :: ':' :: rest) = _
      rw [itemsFrom_step rfl, itemsFrom_step hstep]
      exact itemsFrom_step rfl rest

/-- The reader passes over the rest of a specification to the brace that closes the placeholder. -/
theorem itemsFrom_spec {field read spec : Text} {mark : Option Char} {depth : Nat}
    (hread : LeavesOpen depth read.reverse) (hspec : LeavesOpen 0 (read.reverse ++ spec))
    (rest : Text) :
    itemsFrom (.spec field mark depth read) (spec ++ closing :: rest) =
      (itemsFrom .text rest).map (.placeholder ⟨field, mark, read.reverse ++ spec⟩ :: ·) := by
  have hcount := hread.count
  induction spec generalizing depth read with
  | nil =>
      rw [List.append_nil] at hspec ⊢
      obtain rfl : depth = 0 := by
        have hbalanced := hspec.count
        omega
      exact itemsFrom_complete rfl rest
  | cons c later ih =>
      have hnext : (c :: read).reverse = read.reverse ++ [c] := List.reverse_cons
      have hlonger : read.reverse ++ c :: later = (c :: read).reverse ++ later := by
        rw [hnext, List.append_assoc, List.cons_append, List.nil_append]
      rw [hlonger] at hspec ⊢
      rw [List.cons_append]
      by_cases hopening : c = opening
      · subst hopening
        have hopened : LeavesOpen (depth + 1) (opening :: read).reverse := hnext ▸ hread.opened
        rw [itemsFrom_step rfl]
        exact ih hopened hspec hopened.count
      by_cases hclosing : c = closing
      · subst hclosing
        -- the brace closes one that the specification has opened, or it would close too many
        have hcloses := hspec.closes _ (List.prefix_append (closing :: read).reverse later)
        have hinner : 0 < depth := by
          simp [List.count_append, opening, closing] at hcloses hcount
          omega
        obtain ⟨outer, rfl⟩ := Nat.exists_eq_succ_of_ne_zero hinner.ne'
        have hclosed : LeavesOpen outer (closing :: read).reverse := hnext ▸ hread.closed
        rw [itemsFrom_step rfl]
        exact ih hclosed hspec hclosed.count
      · have hother : LeavesOpen depth (c :: read).reverse := hnext ▸ hread.other hopening hclosing
        have hstep : (Place.spec field mark depth read).next c =
            .ok (.spec field mark depth (c :: read), none) := by
          simp only [Place.next, if_neg hopening, if_neg hclosing]
        rw [itemsFrom_step hstep]
        exact ih hother hspec hother.count

/-- Behind the brace that opens a placeholder, the reader passes over its name. What follows the
name is not another opening brace, with which the first one would be a doubled one. -/
theorem itemsFrom_opened {name : Text} (h : Name name) {c : Char} (hc : c ≠ opening)
    (rest : Text) :
    itemsFrom .opened (name ++ c :: rest) = itemsFrom (.name name.reverse) (c :: rest) := by
  have hfirst : ∀ first more, first ≠ opening →
      itemsFrom .opened (first :: more) = itemsFrom (.name []) (first :: more) := by
    intro first more hne
    simp only [itemsFrom, Place.next, if_neg hne]
  have hread := itemsFrom_name h [] (c :: rest)
  rw [List.append_nil] at hread
  rw [← hread]
  cases h with
  | nil => exact hfirst c rest hc
  | plain hplain _ => exact hfirst _ _ hplain.1
  | index _ _ => exact hfirst '[' _ (by decide)

/-- The reader passes over a placeholder. -/
theorem itemsFrom_field {p : Placeholder} {text : Text} (h : Field p text)
    (hnull : '\x00' ∉ text) (rest : Text) :
    itemsFrom .opened (text ++ closing :: rest) =
      (itemsFrom .text rest).map (.placeholder p :: ·) := by
  cases h with
  | @bare name mark hname =>
      have hmark : mark ≠ some '\x00' := by
        rintro rfl
        simp [markText] at hnull
      have hread := itemsFrom_markText_closing hmark name.reverse rest
      rw [List.reverse_reverse] at hread
      rw [List.append_assoc, ← hread]
      cases mark with
      | none => exact itemsFrom_opened hname (by decide) _
      | some c => exact itemsFrom_opened hname (by decide) _
  | @specified name mark spec hname hspec =>
      have hmark : mark ≠ some '\x00' := by
        rintro rfl
        simp [markText] at hnull
      have hstart : LeavesOpen 0 (List.reverse []) := .nil
      have hread := itemsFrom_markText_colon hmark name.reverse (spec ++ closing :: rest)
      rw [List.reverse_reverse, itemsFrom_spec hstart hspec] at hread
      rw [List.append_assoc, List.append_assoc, List.cons_append]
      refine Eq.trans ?_ hread
      cases mark with
      | none => exact itemsFrom_opened hname (by decide) _
      | some c => exact itemsFrom_opened hname (by decide) _

/-- The reader passes over what is written for an item. -/
theorem itemsFrom_written {item : Item} {front : Text} (h : Written item front)
    (hnull : '\x00' ∉ front) (rest : Text) :
    itemsFrom .text (front ++ rest) = (itemsFrom .text rest).map (item :: ·) := by
  cases h with
  | @char c hopening hclosing =>
      have hstep : Place.text.next c = .ok (.text, some (.char c)) := by
        simp only [Place.next, if_neg hopening, if_neg hclosing]
      exact itemsFrom_complete hstep rest
  | doubled hbrace =>
      rcases hbrace with rfl | rfl
      · exact (itemsFrom_step rfl _).trans (itemsFrom_complete rfl rest)
      · exact (itemsFrom_step rfl _).trans (itemsFrom_complete rfl rest)
  | @placeholder p text hfield =>
      have htext : '\x00' ∉ text := by
        intro hmem
        simp [hmem] at hnull
      have hstep : Place.text.next opening = .ok (.opened, none) := rfl
      rw [List.cons_append, itemsFrom_step hstep, List.append_assoc]
      exact itemsFrom_field hfield htext rest

/-- The reader accepts exactly the texts that spell items, and answers these items. The null
character, which is no conversion, does not stand in the text. -/
theorem items_eq_ok_iff {text : Text} (hnull : '\x00' ∉ text) {items : List Item} :
    Markup.items text = .ok items ↔ Spells items text := by
  constructor
  · intro h
    have htext : Place.text.Sound := trivial
    exact spells_of_itemsFrom htext hnull h
  · intro h
    unfold Markup.items
    induction h with
    | nil => rfl
    | cons hwritten _ ih =>
        rw [List.mem_append, not_or] at hnull
        rw [itemsFrom_written hwritten hnull.1, ih hnull.2]
        rfl

end TextCursor.Markup
