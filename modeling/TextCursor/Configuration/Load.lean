import TextCursor.Configuration.Member
import TextCursor.Toml.Document

/-!
# Reading configurations

A configuration is read from a table whose keys are settings and whose values are texts. A file
gives that table under one key of its own, or as the whole document. Keys are checked before
values, and what is not given has its customary value.
-/

namespace TextCursor.Configuration

/-- The configuration with the values of the entries, all of which have to be texts. Keys that
name no setting are passed over. -/
def fill (c : Configuration) : List (Text × Datum) → Except ConfigurationFault Configuration
  | [] => .ok c
  | (key, .text value) :: later =>
      match Setting.ofKey? key with
      | some setting => fill (c.set setting value) later
      | none => fill c later
  | (key, value) :: _ => .error (.notText key value.kindName)

/-- The configuration that a value gives, which has to be a table. Its members are checked first,
whatever it is. -/
def ofDatum (value : Datum) : Except ConfigurationFault Configuration :=
  match value.members? with
  | none => .error (.noMembers value.fullKindName)
  | some members => do
      checkMembers members
      match value with
      | .table entries => fill {} entries
      | _ => .error (.noEntries value.kindName)

/-- The key under which a document may give the settings. -/
def documentKey : Text := Text.lit "carve"

/-- The configuration that a document gives: that of the value under the key of its own if there
is one, whatever it is, and otherwise that of the whole document. -/
def ofDocument (document : Datum) : Except ConfigurationFault Configuration :=
  ofDatum ((document.field? documentKey).getD document)

end Configuration

/-- What stands at a path. -/
inductive FileContent where
  | absent
  | directory
  | file (bytes : ByteArray)

/-- The configuration of the file at a path with this content. -/
def Configuration.load (path : Text) : FileContent → Except ConfigurationFault Configuration
  | .absent => .error (.unreadable path .missing)
  | .directory => .error (.unreadable path .directory)
  | .file bytes =>
      match String.fromUTF8? bytes with
      | none => .error .undecodable
      | some content =>
          match Toml.parse content.toList with
          | .error .malformed => .error (.malformed path)
          | .error (.tooManyDigits digits) => .error (.tooManyDigits digits)
          | .ok document => ofDocument document

end TextCursor
