import TextCursor.Extraction.Template
import TextCursor.Proofs.Extraction.Markup

/-!
# What templates accept and mean

A template can be built into an extractor exactly when it is a row of pieces, each a character, with
braces doubled, or the name of a registered chopper between braces, and the extractor is then the
one that has the texts between the placeholders for its literals and these choppers between them. In
every other case there is an error that tells which: that the text is no markup at all, or what is
wrong with the leftmost placeholder that no chopper can be had for. All of this is
`Template.build_spec`. It rests on the grammar of markup and on what `Template.assemble` makes of
items, which are those of pieces (`Template.assemble_pieces`) or have a first offence
(`Template.assemble_eq_error_iff`).
-/

namespace TextCursor

open Markup

/-- A piece of a template that has nothing but names in its placeholders: a character of the text,
or a name, which may have a colon behind it. -/
inductive Piece where
  | char (c : Char)
  | placeholder (name : Text) (colon : Bool)
  deriving DecidableEq

namespace Piece

/-- The piece as it is written: braces of the text are doubled, and names are put between braces. -/
def written : Piece → Text
  | char c => if c = opening ∨ c = closing then [c, c] else [c]
  | placeholder name colon => opening :: (name ++ ((if colon then [':'] else []) ++ [closing]))

/-- The pieces as they are written, one after the other. -/
def writtenAll (pieces : List Piece) : Text :=
  pieces.flatMap written

/-- The names in the placeholders, in order. -/
def names : List Piece → List Text
  | [] => []
  | char _ :: later => names later
  | placeholder name _ :: later => name :: names later

/-- The texts in front of, between and behind the placeholders. -/
def literals : List Piece → List Text
  | [] => [[]]
  | char c :: later => (literals later).modifyHead (c :: ·)
  | placeholder _ _ :: later => [] :: literals later

/-- The item that is read where the piece is written. -/
def item : Piece → Item
  | char c => .char c
  | placeholder name _ => .placeholder ⟨name, none, []⟩

/-- There is one literal more than there are names. -/
theorem length_literals (pieces : List Piece) :
    (literals pieces).length = (names pieces).length + 1 := by
  induction pieces with
  | nil => rfl
  | cons piece later ih =>
      cases piece with
      | char c => rw [literals, List.length_modifyHead, names, ih]
      | placeholder name colon => rw [literals, List.length_cons, names, List.length_cons, ih]

/-- Where nothing has been read in front of the literals, the first of them stays as it is. -/
theorem modifyHead_nil_append (texts : List Text) :
    texts.modifyHead (List.reverse [] ++ ·) = texts := by
  cases texts <;> rfl

/-- A text in front of the literals is not the last of them. -/
theorem getLast?_cons_literals (front : Text) (pieces : List Piece) :
    (front :: literals pieces).getLast? = (literals pieces).getLast? := by
  have hlength := length_literals pieces
  cases hliterals : literals pieces with
  | nil => simp [hliterals] at hlength
  | cons first others => exact List.getLast?_cons_cons

/-- What is written for pieces with plain names spells their items. -/
theorem spells {pieces : List Piece} (h : ∀ name ∈ names pieces, ∀ c ∈ name, IsPlain c) :
    Spells (pieces.map item) (writtenAll pieces) := by
  induction pieces with
  | nil => exact .nil
  | cons piece later ih =>
      cases piece with
      | char c =>
          refine .cons ?_ (ih h)
          show Written (.char c) (if c = opening ∨ c = closing then [c, c] else [c])
          split
          · next hbrace => exact .doubled hbrace
          · next hbrace =>
              rw [not_or] at hbrace
              exact .char hbrace.1 hbrace.2
      | placeholder name colon =>
          have hname : Name name := name_of_plain (h name List.mem_cons_self)
          refine .cons ?_ (ih fun other hother => h other (List.mem_cons_of_mem _ hother))
          cases colon with
          | false =>
              have hfield : Field ⟨name, none, []⟩ (name ++ []) := .bare hname
              rw [List.append_nil] at hfield
              exact .placeholder hfield
          | true =>
              have hfield : Field ⟨name, none, []⟩ (name ++ [':']) := .specified hname .nil
              show Written _ (opening :: (name ++ ([':'] ++ [closing])))
              rw [← List.append_assoc]
              exact .placeholder hfield

/-- Items without conversions and specifications are those of pieces, and are written like them. -/
theorem exists_of_spells {items : List Item} {text : Text} (h : Spells items text)
    (hbare : ∀ p, .placeholder p ∈ items → p.conversion = none ∧ p.spec = []) :
    ∃ pieces : List Piece, pieces.map item = items ∧ writtenAll pieces = text := by
  induction h with
  | nil => exact ⟨[], rfl, rfl⟩
  | @cons first items front rest hwritten _ ih =>
      obtain ⟨pieces, rfl, rfl⟩ := ih fun p hp => hbare p (List.mem_cons_of_mem _ hp)
      have hpiece : ∃ piece : Piece, piece.item = first ∧ piece.written = front := by
        cases hwritten with
        | @char c hopening hclosing =>
            exact ⟨.char c, rfl, if_neg (not_or.2 ⟨hopening, hclosing⟩)⟩
        | @doubled c hbrace => exact ⟨.char c, rfl, if_pos hbrace⟩
        | @placeholder p text hfield =>
            obtain ⟨hconversion, hspec⟩ := hbare p List.mem_cons_self
            cases hfield with
            | @bare name mark hname =>
                obtain rfl : mark = none := hconversion
                exact ⟨.placeholder name false, rfl, by simp [written, markText]⟩
            | @specified name mark spec hname hbalanced =>
                obtain rfl : mark = none := hconversion
                obtain rfl : spec = [] := hspec
                exact ⟨.placeholder name true, rfl, by simp [written, markText]⟩
      obtain ⟨piece, rfl, rfl⟩ := hpiece
      exact ⟨piece :: pieces, rfl, rfl⟩

end Piece

namespace Template

variable {ε α : Type} {registry : Registry ε α}

/-- What keeps a placeholder from naming a chopper: a conversion or a specification, or, where it
has neither, a name that is not registered. -/
def offence (registry : Registry ε α) (p : Placeholder) : Option TemplateFault :=
  if p.spec ≠ [] ∨ p.conversion.isSome then some (.decorated p.name)
  else if (registry.find? p.name).isNone then some (.unknownChopper p.name registry.names)
  else none

/-- The placeholders among the items, in order. -/
def placeholders : List Item → List Placeholder
  | [] => []
  | .char _ :: later => placeholders later
  | .placeholder p :: later => p :: placeholders later

/-- A placeholder has a chopper unless there is an offence, which is then the error. -/
theorem chopperOf_eq_error_iff {p : Placeholder} {fault : TemplateFault} :
    chopperOf registry p = .error fault ↔ offence registry p = some fault := by
  have hdecorated : (!p.spec.isEmpty || p.conversion.isSome) = true ↔
      p.spec ≠ [] ∨ p.conversion.isSome := by
    simp
  unfold chopperOf offence
  by_cases h : p.spec ≠ [] ∨ p.conversion.isSome
  · rw [if_pos (hdecorated.2 h), if_pos h]
    simp
  · rw [if_neg (mt hdecorated.1 h), if_neg h]
    cases registry.find? p.name <;> simp

/-- The first offence among the placeholders is the error of assembling the items, whatever has been
read in front of them. -/
theorem assemble_eq_error_iff {literal : Text} {items : List Item} {fault : TemplateFault} :
    assemble registry literal items = .error fault ↔
      (placeholders items).findSome? (offence registry) = some fault := by
  induction items generalizing literal with
  | nil => simp [assemble, placeholders]
  | cons first later ih =>
      cases first with
      | char c => exact ih
      | placeholder p =>
          rw [assemble, placeholders, List.findSome?_cons]
          cases hchopper : chopperOf registry p with
          | error other => simp [chopperOf_eq_error_iff.1 hchopper]
          | ok chopper =>
              have hnone : offence registry p = none := by
                rw [Option.eq_none_iff_forall_ne_some]
                intro other hother
                rw [chopperOf_eq_error_iff.2 hother] at hchopper
                cases hchopper
              simp only [hnone]
              rw [Except.map_eq_error_iff, ih]

/-- The extractor that the items of pieces with registered names are assembled into: what has been
read in front of them belongs to the first literal. -/
theorem assemble_pieces {pieces : List Piece} {choppers : List (Chopper ε α)}
    (h : (Piece.names pieces).map registry.find? = choppers.map some) (literal : Text) :
    let literals := (Piece.literals pieces).modifyHead (literal.reverse ++ ·)
    assemble registry literal (pieces.map Piece.item) =
      .ok ⟨literals.zip choppers, literals.getLast?.getD []⟩ := by
  -- characters gather in `literal`, backwards, until a placeholder begins the next literal anew
  induction pieces generalizing literal choppers with
  | nil =>
      obtain rfl : choppers = [] := by simpa [Piece.names] using h.symm
      simp [Piece.literals, assemble]
  | cons piece later ih =>
      cases piece with
      | char c =>
          have hlater := ih h (c :: literal)
          simp only [List.reverse_cons, List.append_assoc, List.cons_append, List.nil_append]
            at hlater
          simpa [Piece.literals, assemble, Piece.item, Function.comp_def] using hlater
      | placeholder name colon =>
          cases choppers with
          | nil => simp [Piece.names] at h
          | cons chopper others =>
              simp only [Piece.names, List.map_cons, List.cons.injEq] at h
              obtain ⟨hfind, hothers⟩ := h
              have hchopper : chopperOf registry ⟨name, none, []⟩ = .ok chopper := by
                simp [chopperOf, hfind]
              have hlater := ih hothers []
              simp only [Piece.modifyHead_nil_append] at hlater
              have hlast := Piece.getLast?_cons_literals literal.reverse later
              simp only [List.map_cons, Piece.item, assemble, hchopper, hlater, Piece.literals,
                List.modifyHead_cons, List.append_nil, hlast, List.zip_cons_cons]
              rfl

/-- The placeholders of pieces have their names and nothing else. -/
theorem placeholders_pieces (pieces : List Piece) :
    placeholders (pieces.map Piece.item) = (Piece.names pieces).map (⟨·, none, []⟩) := by
  induction pieces with
  | nil => rfl
  | cons piece later ih =>
      cases piece with
      | char c => exact ih
      | placeholder name colon => exact congrArg (_ :: ·) ih

/-- The placeholders are those items that are placeholders. -/
theorem mem_placeholders {items : List Item} {p : Placeholder}
    (h : .placeholder p ∈ items) : p ∈ placeholders items := by
  induction items with
  | nil => cases h
  | cons first later ih =>
      cases first with
      | char c =>
          rcases List.mem_cons.1 h with heq | hlater
          · cases heq
          · exact ih hlater
      | placeholder other =>
          rcases List.mem_cons.1 h with heq | hlater
          · cases heq
            exact List.mem_cons_self
          · exact List.mem_cons_of_mem _ (ih hlater)

/-- A placeholder without an offence is a registered name and nothing else. -/
theorem bare_of_offence_eq_none {p : Placeholder} (h : offence registry p = none) :
    p.conversion = none ∧ p.spec = [] ∧ (registry.find? p.name).isSome := by
  unfold offence at h
  split at h
  · cases h
  next hbare =>
  split at h
  · cases h
  next hfound =>
  rw [not_or] at hbare
  have hregistered : (registry.find? p.name).isSome := by
    simpa [Option.isSome_iff_ne_none] using hfound
  exact ⟨by simpa using hbare.2, not_not.1 hbare.1, hregistered⟩

/-- No offence is that the template is malformed. -/
theorem offence_ne_malformed (p : Placeholder) (template : Text) (fault : Markup.Fault) :
    offence registry p ≠ some (.malformed template fault) := by
  unfold offence
  split
  · simp
  · split <;> simp

/-- There is a chopper for each name where all names are registered. -/
theorem exists_choppers {names : List Text} (h : ∀ name ∈ names, (registry.find? name).isSome) :
    ∃ choppers : List (Chopper ε α), names.map registry.find? = choppers.map some := by
  induction names with
  | nil => exact ⟨[], rfl⟩
  | cons name later ih =>
      obtain ⟨chopper, hchopper⟩ := Option.isSome_iff_exists.1 (h name List.mem_cons_self)
      obtain ⟨choppers, hlater⟩ := ih fun other hother => h other (List.mem_cons_of_mem _ hother)
      exact ⟨chopper :: choppers, by rw [List.map_cons, List.map_cons, hchopper, hlater]⟩

variable {template : Text}

/-- What is built from a template that spells items is what these are assembled into. -/
theorem build_of_spells (hnull : '\x00' ∉ template) {items : List Item}
    (h : Spells items template) : build registry template = assemble registry [] items := by
  rw [build, (items_eq_ok_iff hnull).2 h]

/-- A template that spells no items is malformed, and no other one is. -/
theorem exists_malformed_iff (hnull : '\x00' ∉ template) :
    (∃ fault, build registry template = .error (.malformed template fault)) ↔
      ¬ ∃ items, Spells items template := by
  constructor
  · rintro ⟨fault, hfault⟩ ⟨items, hitems⟩
    rw [build_of_spells hnull hitems, assemble_eq_error_iff] at hfault
    obtain ⟨p, -, hoffence⟩ := List.exists_of_findSome?_eq_some hfault
    exact offence_ne_malformed p template fault hoffence
  · intro hnone
    cases hitems : Markup.items template with
    | ok items => exact absurd ⟨items, (items_eq_ok_iff hnull).1 hitems⟩ hnone
    | error fault => exact ⟨fault, by rw [build, hitems]⟩

/-- A template that is written as pieces with registered names is built into the extractor with the
literals of the pieces and the choppers under these names. -/
theorem build_pieces
    (hplain : ∀ name chopper, registry.find? name = some chopper → ∀ c ∈ name, IsPlain c)
    (hnull : '\x00' ∉ template) {pieces : List Piece} {choppers : List (Chopper ε α)}
    (hwritten : Piece.writtenAll pieces = template)
    (hfound : (Piece.names pieces).map registry.find? = choppers.map some) :
    ∃ extractor,
      Extractor.build (Piece.literals pieces) (choppers.map .chopper) = .ok extractor ∧
      build registry template = .ok extractor := by
  have hnames : ∀ name ∈ Piece.names pieces, ∀ c ∈ name, IsPlain c := by
    intro name hname
    obtain ⟨chopper, -, hchopper⟩ : ∃ chopper ∈ choppers, some chopper = registry.find? name := by
      rw [← List.mem_map, ← hfound]
      exact List.mem_map_of_mem hname
    exact hplain name chopper hchopper.symm
  have hlength : (Piece.literals pieces).length = choppers.length + 1 := by
    have hcount := congrArg List.length hfound
    rw [List.length_map, List.length_map] at hcount
    rw [Piece.length_literals, hcount]
  have hassemble := assemble_pieces hfound []
  simp only [Piece.modifyHead_nil_append] at hassemble
  refine ⟨_, Extractor.build_choppers hlength, ?_⟩
  rw [← hwritten] at hnull ⊢
  rw [build_of_spells hnull (Piece.spells hnames), hassemble]

/-- A template that is built into an extractor is written as pieces with registered names. -/
theorem exists_pieces_of_build (hnull : '\x00' ∉ template) {extractor : Extractor ε α}
    (h : build registry template = .ok extractor) :
    ∃ pieces, Piece.writtenAll pieces = template ∧
      ∀ name ∈ Piece.names pieces, (registry.find? name).isSome := by
  cases hitems : Markup.items template with
  | error fault => simp [build, hitems] at h
  | ok items =>
      have hspells := (items_eq_ok_iff hnull).1 hitems
      rw [build_of_spells hnull hspells] at h
      have hoffence : ∀ p ∈ placeholders items, offence registry p = none := by
        rw [← List.findSome?_eq_none_iff, Option.eq_none_iff_forall_ne_some]
        intro fault hfault
        rw [assemble_eq_error_iff.2 hfault] at h
        cases h
      obtain ⟨pieces, rfl, hwritten⟩ := Piece.exists_of_spells hspells fun p hp =>
        have hbare := bare_of_offence_eq_none (hoffence p (mem_placeholders hp))
        ⟨hbare.1, hbare.2.1⟩
      refine ⟨pieces, hwritten, ?_⟩
      intro name hname
      rw [placeholders_pieces] at hoffence
      exact (bare_of_offence_eq_none (hoffence _ (List.mem_map_of_mem hname))).2.2

/-- What a template can be built into, and what it cannot. Let the names in the registry have none
of the characters that mean something in a placeholder, and the template no null character. There
is an extractor exactly when the template is written as pieces with registered names, and it is then
the one with the literals of these pieces and the choppers that the registry has under their names.
The template is malformed exactly when it spells no items. Where it does spell items, there is an
error exactly when a placeholder among them has an offence, and it is that of the first of these. -/
theorem build_spec {registry : Registry ε α}
    (hplain : ∀ name chopper, registry.find? name = some chopper → ∀ c ∈ name, IsPlain c)
    {template : Text} (hnull : '\x00' ∉ template) :
    ((∃ extractor, build registry template = .ok extractor) ↔
      ∃ pieces, Piece.writtenAll pieces = template ∧
        ∀ name ∈ Piece.names pieces, (registry.find? name).isSome) ∧
    (∀ pieces (choppers : List (Chopper ε α)), Piece.writtenAll pieces = template →
      (Piece.names pieces).map registry.find? = choppers.map some →
      ∃ extractor,
        Extractor.build (Piece.literals pieces) (choppers.map .chopper) = .ok extractor ∧
        build registry template = .ok extractor) ∧
    ((∃ fault, build registry template = .error (.malformed template fault)) ↔
      ¬ ∃ items, Spells items template) ∧
    (∀ items, Spells items template → ∀ fault,
      build registry template = .error fault ↔
        (placeholders items).findSome? (offence registry) = some fault) := by
  refine ⟨⟨?_, ?_⟩, ?_, exists_malformed_iff hnull, ?_⟩
  · rintro ⟨extractor, hbuild⟩
    exact exists_pieces_of_build hnull hbuild
  · rintro ⟨pieces, hwritten, hnames⟩
    obtain ⟨choppers, hfound⟩ := exists_choppers hnames
    obtain ⟨extractor, -, hbuild⟩ := build_pieces hplain hnull hwritten hfound
    exact ⟨extractor, hbuild⟩
  · intro pieces choppers hwritten hfound
    exact build_pieces hplain hnull hwritten hfound
  · intro items hspells fault
    rw [build_of_spells hnull hspells, assemble_eq_error_iff]

/-- A number between braces of the text and a word with a colon behind its name; a name that is not
closed; and two offences, of which the first one counts. -/
theorem build_spec_braces_and_offences :
    let registry : Registry ChopFault Datum := .builtin
    let pieces := [Piece.char opening, .placeholder (Text.lit "int") false, .char closing,
      .placeholder (Text.lit "w") true]
    let template := [opening, opening, opening, 'i', 'n', 't', closing, closing, closing, opening,
      'w', ':', closing]
    let unclosed := [opening, 'w']
    let offending := [opening, 'n', closing, ' ', opening, 'w', ':', '3', closing]
    (∀ name chopper, registry.find? name = some chopper → ∀ c ∈ name, IsPlain c) ∧
      Piece.writtenAll pieces = template ∧
      (∃ extractor,
        Extractor.build [[opening], [closing], []] [.chopper Chopper.int, .chopper Chopper.word] =
          .ok extractor ∧
        build registry template = .ok extractor) ∧
      (¬ ∃ items, Spells items unclosed) ∧
      build registry offending = .error (.unknownChopper ['n'] registry.names) := by
  intro registry pieces template unclosed offending
  have hplain : ∀ name chopper, registry.find? name = some chopper → ∀ c ∈ name, IsPlain c := by
    intro name chopper hname
    obtain ⟨earlier, later, hentries, -⟩ := List.lookup_eq_some_iff.1 hname
    have hkeys : registry.entries.map (·.1) = [Text.lit "opt", Text.lit "optional", Text.lit "w",
      Text.lit "word", Text.lit "f", Text.lit "float", Text.lit "i", Text.lit "int"] := rfl
    have hall : ∀ known ∈ registry.entries.map (·.1), ∀ c ∈ known, IsPlain c := by
      simp [hkeys, Text.lit, IsPlain, opening, closing]
    exact hall name (by simp [hentries])
  have hwritten : Piece.writtenAll pieces = template := by decide
  have hfound : (Piece.names pieces).map registry.find? =
      [Chopper.int, Chopper.word].map some := rfl
  obtain ⟨-, hbuilt, -, -⟩ := build_spec hplain (show '\x00' ∉ template by decide)
  obtain ⟨-, -, hmalformed, -⟩ := build_spec hplain (show '\x00' ∉ unclosed by decide)
  obtain ⟨-, -, -, hoffence⟩ := build_spec hplain (show '\x00' ∉ offending by decide)
  have hitems : Spells
      [.placeholder ⟨['n'], none, []⟩, .char ' ', .placeholder ⟨['w'], none, ['3']⟩] offending :=
    (items_eq_ok_iff (by decide)).1 rfl
  exact ⟨hplain, hwritten, hbuilt pieces _ hwritten hfound,
    hmalformed.1 ⟨.unclosedName, rfl⟩, (hoffence _ hitems _).2 rfl⟩

end Template

end TextCursor
