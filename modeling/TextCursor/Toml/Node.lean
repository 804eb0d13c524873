import TextCursor.Datum

/-!
# Tables under construction

A document builds a tree of tables. Headers declare tables and append to lists of tables; keys with
several parts open tables on their way. Which of these may still be extended depends on how a table
came about, so every table carries that along until the document is complete.
-/

namespace TextCursor.Toml

/-- How a table came about: on the way to another one, by a key of several parts in the given
section of the document, or by a header of its own. -/
inductive Origin where
  | implied
  | dotted (sectionNumber : Nat)
  | declared
  deriving DecidableEq

/-- A value of a document under construction: a finished value, a table, or a list of tables of
which only the last can still be extended. -/
inductive Node where
  | value (datum : Datum)
  | table (origin : Origin) (entries : List (Text × Node))
  | tables (finished : List Datum) (latest : List (Text × Node))

/-- The entries of a table under construction, in the order in which they were made. -/
abbrev Entries := List (Text × Node)

mutual

/-- The finished value. -/
def Node.toDatum : Node → Datum
  | .value datum => datum
  | .table _ entries => .table (entriesToData entries)
  | .tables finished latest => .list (finished ++ [.table (entriesToData latest)])

/-- The finished entries. -/
def entriesToData : List (Text × Node) → List (Text × Datum)
  | [] => []
  | (key, node) :: later => (key, node.toDatum) :: entriesToData later

end

namespace Entries

/-- The entries with this node under the key, in place of an earlier one or at the end. -/
def put (key : Text) (node : Node) : Entries → Entries
  | [] => [(key, node)]
  | (other, old) :: later =>
      if other = key then (key, node) :: later else (other, old) :: put key node later

/-- A change of entries, which may be refused. -/
abbrev Change := Entries → Option Entries

/-- Make a change in the table at the end of a path. Tables that are missing on the way are made;
in a list of tables the way leads through the last one. -/
def within (path : List Text) (change : Change) : Change := fun entries =>
  match path with
  | [] => change entries
  | key :: deeper =>
      match entries.lookup key with
      | none => (within deeper change []).map fun inner => put key (.table .implied inner) entries
      | some (.table origin inner) =>
          (within deeper change inner).map fun changed => put key (.table origin changed) entries
      | some (.tables finished latest) =>
          (within deeper change latest).map fun changed =>
            put key (.tables finished changed) entries
      | some (.value _) => none

/-- The table may not be extended any more by keys of several parts or by a header: it has a header
of its own, or such keys extended it in an earlier section. -/
def isSealed (sectionNumber : Nat) : Origin → Bool
  | .implied => false
  | .dotted earlier => earlier < sectionNumber
  | .declared => true

/-- Declare the table at this key. -/
def declare (sectionNumber : Nat) (key : Text) : Change := fun entries =>
  match entries.lookup key with
  | none => some (put key (.table .declared []) entries)
  | some (.table origin inner) =>
      if isSealed sectionNumber origin then none
      else some (put key (.table .declared inner) entries)
  | some _ => none

/-- Append an empty table to the list of tables at this key. -/
def append (key : Text) : Change := fun entries =>
  match entries.lookup key with
  | none => some (put key (.tables [] []) entries)
  | some (.tables finished latest) =>
      some (put key (.tables (finished ++ [.table (entriesToData latest)]) []) entries)
  | some _ => none

/-- Give a value to the key whose parts are `path` and `last`, in the given section. The key has to
be new, and the tables on its way must still be open to keys of several parts. -/
def assign (sectionNumber : Nat) (path : List Text) (last : Text) (value : Datum) : Change :=
  fun entries =>
    match path with
    | [] =>
        match entries.lookup last with
        | none => some (put last (.value value) entries)
        | some _ => none
    | key :: deeper =>
        let extend (inner : Entries) : Option Entries :=
          (assign sectionNumber deeper last value inner).map fun changed =>
            put key (.table (.dotted sectionNumber) changed) entries
        match entries.lookup key with
        | none => extend []
        | some (.table origin inner) =>
            if isSealed sectionNumber origin then none else extend inner
        | some _ => none

end Entries

end TextCursor.Toml
