import TextCursor.Toml.Moment
import TextCursor.Toml.Node
import TextCursor.Toml.Number
import TextCursor.Toml.Quotation

/-!
# Settings documents

A document is a sequence of statements, one on a line: a key with its value, the header of a table,
or the header of the next table of a list. `parse` answers the table that a document describes, or
the first fault in it.
-/

namespace TextCursor.Toml

mutual

/-- A value at the front of the text. -/
def value (fuel : Nat) (text : Text) : Except Fault (Datum × Text) :=
  match fuel with
  | 0 => .error .malformed
  | fuel + 1 =>
      match text with
      | '\x22' :: _ | '\x27' :: _ =>
          (required (string? text)).map fun (t, behind) => (.text t, behind)
      | 't' :: 'r' :: 'u' :: 'e' :: behind => .ok (.bool true, behind)
      | 'f' :: 'a' :: 'l' :: 's' :: 'e' :: behind => .ok (.bool false, behind)
      | '[' :: rest => (items fuel rest).map fun (data, behind) => (.list data, behind)
      | '\x7b' :: rest =>
          match skipSpace rest with
          | '\x7d' :: behind => .ok (.table [], behind)
          | begun => (pairs fuel [] begun).map fun (made, behind) =>
              (.table (entriesToData made), behind)
      | _ =>
          match moment? text with
          | some read => .ok read
          | none => number text

/-- The items of a list up to its closing bracket. A comma may follow the last one. -/
def items (fuel : Nat) (text : Text) : Except Fault (List Datum × Text) :=
  match fuel with
  | 0 => .error .malformed
  | fuel + 1 => do
      match ← required (skipLines? false text) with
      | ']' :: behind => .ok ([], behind)
      | begun =>
          let (datum, behind) ← value fuel begun
          match ← required (skipLines? false behind) with
          | ']' :: behind => .ok ([datum], behind)
          | ',' :: behind =>
              let (more, behind) ← items fuel behind
              .ok (datum :: more, behind)
          | _ => .error .malformed

/-- The entries of a table in braces up to its closing brace, after those already made. -/
def pairs (fuel : Nat) (made : Entries) (text : Text) : Except Fault (Entries × Text) :=
  match fuel with
  | 0 => .error .malformed
  | fuel + 1 => do
      let (key, behind) ← required (key? text)
      match behind with
      | '=' :: behind =>
          let (datum, behind) ← value fuel (skipSpace behind)
          let made ← required (Entries.assign 0 key.dropLast (key.getLast?.getD []) datum made)
          match skipSpace behind with
          | '\x7d' :: behind => .ok (made, behind)
          | ',' :: behind => pairs fuel made (skipSpace behind)
          | _ => .error .malformed
      | _ => .error .malformed

end

/-- A document read so far: its entries, the path of the table that the latest header opened, and
the number of headers. -/
structure Draft where
  entries : Entries := []
  header : List Text := []
  sectionNumber : Nat := 0

/-- Read the header of a table, behind its opening bracket. -/
def tableHeader? (draft : Draft) (text : Text) : Option (Draft × Text) := do
  let (key, behind) ← key? (skipSpace text)
  let next := draft.sectionNumber + 1
  let entries ←
    Entries.within key.dropLast (Entries.declare next (key.getLast?.getD [])) draft.entries
  match behind with
  | ']' :: behind => some (⟨entries, key, next⟩, behind)
  | _ => none

/-- Read the header of the next table of a list, behind its opening brackets. -/
def listHeader? (draft : Draft) (text : Text) : Option (Draft × Text) := do
  let (key, behind) ← key? (skipSpace text)
  let entries ←
    Entries.within key.dropLast (Entries.append (key.getLast?.getD [])) draft.entries
  match behind with
  | ']' :: ']' :: behind => some (⟨entries, key, draft.sectionNumber + 1⟩, behind)
  | _ => none

/-- Read a key with its value. The value is read before it is looked at whether the key may have
one. -/
def keyValue (fuel : Nat) (draft : Draft) (text : Text) : Except Fault (Draft × Text) := do
  let (key, behind) ← required (key? text)
  match behind with
  | '=' :: behind =>
      let (datum, behind) ← value fuel (skipSpace behind)
      let change :=
        Entries.assign draft.sectionNumber key.dropLast (key.getLast?.getD []) datum
      let entries ← required (Entries.within draft.header change draft.entries)
      .ok ({ draft with entries := entries }, behind)
  | _ => .error .malformed

/-- Read a statement, of which there may be none. -/
def statement (fuel : Nat) (draft : Draft) (text : Text) : Except Fault (Draft × Text) :=
  match text with
  | '[' :: '[' :: rest => required (listHeader? draft rest)
  | '[' :: rest => required (tableHeader? draft rest)
  | [] | '\n' :: _ | '#' :: _ => .ok (draft, text)
  | _ => keyValue fuel draft text

/-- Read statements to the end of the text, each with the rest of its line. -/
def statements (fuel : Nat) (draft : Draft) (text : Text) : Except Fault Draft :=
  match fuel with
  | 0 => .error .malformed
  | fuel + 1 => do
      let (draft, behind) ← statement fuel draft (skipSpace text)
      match ← required (skipComment? (skipSpace behind)) with
      | [] => .ok draft
      | '\n' :: rest => statements fuel draft rest
      | _ => .error .malformed

/-- The table that a document describes. Every two steps of the readers take at least one character
off the text. -/
def parse (document : Text) : Except Fault Datum :=
  let text := unifyLineEnds document
  (statements (2 * text.length + 2) {} text).map fun draft => .table (entriesToData draft.entries)

end TextCursor.Toml
