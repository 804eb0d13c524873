import TextCursor.Proofs.Except
import TextCursor.Toml.Document

/-!
# Keys of settings documents

In every table of a document, each key stands once (`Toml.parse_hasDistinctKeys`). While a document
is read, this holds of the tables under construction: every change of entries keeps it
(`Toml.Entries.Keeps`), since entries are only ever put under their keys, and the values that are
given to keys have it already (`Toml.Reads`, by induction on the fuel of the readers).
-/

namespace TextCursor

/-- Each key of the value, if it is a table, stands once in it, and so in all tables inside it. -/
inductive Datum.HasDistinctKeys : Datum → Prop where
  | null : HasDistinctKeys .null
  | bool (b : Bool) : HasDistinctKeys (.bool b)
  | int (n : Int) : HasDistinctKeys (.int n)
  | float (x : Binary64) : HasDistinctKeys (.float x)
  | text (t : Text) : HasDistinctKeys (.text t)
  | moment (kind : MomentKind) (written : Text) : HasDistinctKeys (.moment kind written)
  | list {items : List Datum} (hitems : ∀ item ∈ items, HasDistinctKeys item) :
      HasDistinctKeys (.list items)
  | table {entries : List (Text × Datum)} (hkeys : (entries.map Prod.fst).Nodup)
      (hvalues : ∀ entry ∈ entries, HasDistinctKeys entry.2) : HasDistinctKeys (.table entries)

/-- An entry that is looked up is one of the table. -/
theorem mem_of_lookup_eq_some {α : Type} {entries : List (Text × α)} {key : Text} {value : α}
    (h : entries.lookup key = some value) : (key, value) ∈ entries := by
  obtain ⟨earlier, later, rfl, -⟩ := List.lookup_eq_some_iff.1 h
  exact List.mem_append_right _ List.mem_cons_self

/-- Each key stands once in the table itself. -/
theorem Datum.HasDistinctKeys.nodup {entries : List (Text × Datum)}
    (h : (Datum.table entries).HasDistinctKeys) : (entries.map Prod.fst).Nodup := by
  cases h with
  | table hkeys _ => exact hkeys

/-- What stands in a table has distinct keys as well. -/
theorem Datum.HasDistinctKeys.field? {document value : Datum} {key : Text}
    (h : document.HasDistinctKeys) (hfield : document.field? key = some value) :
    value.HasDistinctKeys := by
  cases h with
  | table _ hvalues => exact hvalues (key, value) (mem_of_lookup_eq_some hfield)
  | _ => cases hfield

namespace Toml

/-- Each key stands once in every table that the node holds, finished or under construction. -/
inductive Node.HasDistinctKeys : Node → Prop where
  | value {datum : Datum} (hdatum : datum.HasDistinctKeys) : HasDistinctKeys (.value datum)
  | table {origin : Origin} {entries : Entries} (hkeys : (entries.map Prod.fst).Nodup)
      (hnodes : ∀ entry ∈ entries, HasDistinctKeys entry.2) :
      HasDistinctKeys (.table origin entries)
  | tables {finished : List Datum} {latest : Entries}
      (hfinished : ∀ datum ∈ finished, datum.HasDistinctKeys)
      (hkeys : (latest.map Prod.fst).Nodup) (hnodes : ∀ entry ∈ latest, HasDistinctKeys entry.2) :
      HasDistinctKeys (.tables finished latest)

/-- The finished entries have the keys of the entries. -/
theorem keys_entriesToData (entries : Entries) :
    (entriesToData entries).map Prod.fst = entries.map Prod.fst := by
  induction entries with
  | nil => rfl
  | cons entry later ih =>
      rw [entriesToData, List.map_cons, List.map_cons, ih]

/-- The finished values are those of the nodes. -/
theorem exists_of_mem_entriesToData {entries : Entries} {made : Text × Datum}
    (h : made ∈ entriesToData entries) : ∃ entry ∈ entries, made.2 = entry.2.toDatum := by
  induction entries with
  | nil => cases h
  | cons entry later ih =>
      rw [entriesToData] at h
      rcases List.mem_cons.1 h with rfl | hlater
      · exact ⟨entry, List.mem_cons_self, rfl⟩
      · obtain ⟨other, hother, hmade⟩ := ih hlater
        exact ⟨other, List.mem_cons_of_mem _ hother, hmade⟩

/-- Finished entries make a table in which each key stands once. -/
theorem table_entriesToData {entries : Entries} (hkeys : (entries.map Prod.fst).Nodup)
    (hvalues : ∀ entry ∈ entries, entry.2.toDatum.HasDistinctKeys) :
    (Datum.table (entriesToData entries)).HasDistinctKeys := by
  refine .table (by rwa [keys_entriesToData]) ?_
  intro made hmade
  obtain ⟨entry, hentry, hvalue⟩ := exists_of_mem_entriesToData hmade
  rw [hvalue]
  exact hvalues entry hentry

/-- Finishing a node keeps its keys distinct. -/
theorem Node.HasDistinctKeys.toDatum {node : Node} (h : node.HasDistinctKeys) :
    node.toDatum.HasDistinctKeys := by
  induction h with
  | value hdatum => rwa [Node.toDatum]
  | table hkeys _ ih =>
      rw [Node.toDatum]
      exact table_entriesToData hkeys ih
  | tables hfinished hkeys _ ih =>
      rw [Node.toDatum]
      apply Datum.HasDistinctKeys.list
      intro item hitem
      rcases List.mem_append.1 hitem with hearlier | hlast
      · exact hfinished item hearlier
      · rw [List.mem_singleton.1 hlast]
        exact table_entriesToData hkeys ih

namespace Entries

/-- Each key stands once in the entries, and in all tables inside them. -/
structure HaveDistinctKeys (entries : Entries) : Prop where
  keys : (entries.map Prod.fst).Nodup
  nodes : ∀ entry ∈ entries, entry.2.HasDistinctKeys

/-- The change leaves keys distinct. -/
def Keeps (change : Change) : Prop :=
  ∀ {entries changed : Entries}, HaveDistinctKeys entries → change entries = some changed →
    HaveDistinctKeys changed

variable {entries : Entries} {key : Text} {node : Node} {change : Change}

/-- There are no keys in the beginning. -/
theorem haveDistinctKeys_nil : HaveDistinctKeys [] :=
  ⟨List.nodup_nil, fun _ hentry => nomatch hentry⟩

/-- What is looked up in entries has distinct keys. -/
theorem HaveDistinctKeys.lookup (h : HaveDistinctKeys entries)
    (hlookup : entries.lookup key = some node) : node.HasDistinctKeys :=
  h.nodes _ (mem_of_lookup_eq_some hlookup)

/-- The entries of a table have distinct keys if the table does. -/
theorem HaveDistinctKeys.of_table {origin : Origin}
    (h : (Node.table origin entries).HasDistinctKeys) :
    HaveDistinctKeys entries := by
  cases h with
  | table hkeys hnodes => exact ⟨hkeys, hnodes⟩

/-- The entries that are put are the new one and earlier ones. -/
theorem mem_put {entry : Text × Node} (h : entry ∈ put key node entries) :
    entry = (key, node) ∨ entry ∈ entries := by
  induction entries with
  | nil => exact .inl (List.mem_singleton.1 h)
  | cons first later ih =>
      obtain ⟨other, old⟩ := first
      rw [put] at h
      split at h
      · rcases List.mem_cons.1 h with hnew | hlater
        · exact .inl hnew
        · exact .inr (List.mem_cons_of_mem _ hlater)
      · rcases List.mem_cons.1 h with hfirst | hlater
        · exact .inr (hfirst ▸ List.mem_cons_self)
        · exact (ih hlater).imp_right (List.mem_cons_of_mem _)

/-- An entry takes the place of the one with its key, so that each key still stands once. -/
theorem nodup_keys_put (h : (entries.map Prod.fst).Nodup) :
    ((put key node entries).map Prod.fst).Nodup := by
  induction entries with
  | nil => exact List.pairwise_singleton _ key
  | cons first later ih =>
      obtain ⟨other, old⟩ := first
      obtain ⟨hfirst, hlater⟩ := List.nodup_cons.1 h
      rw [put]
      split
      · next hsame => exact hsame ▸ h
      · next hother =>
          refine List.nodup_cons.2 ⟨?_, ih hlater⟩
          intro hmem
          obtain ⟨entry, hentry, hkey⟩ := List.mem_map.1 hmem
          rcases mem_put hentry with rfl | hearlier
          · exact hother hkey.symm
          · exact hfirst (List.mem_map.2 ⟨entry, hearlier, hkey⟩)

/-- Putting a node with distinct keys among entries keeps theirs distinct. -/
theorem HaveDistinctKeys.put (h : HaveDistinctKeys entries) (hnode : node.HasDistinctKeys) :
    HaveDistinctKeys (put key node entries) where
  keys := nodup_keys_put h.keys
  nodes := by
    intro entry hentry
    rcases mem_put hentry with rfl | hearlier
    · exact hnode
    · exact h.nodes entry hearlier

/-- A change at the end of a path keeps keys distinct if the change itself does. -/
theorem Keeps.within (h : Keeps change) (path : List Text) : Keeps (within path change) := by
  induction path with
  | nil => exact h
  | cons key deeper ih =>
      intro entries changed hentries hchange
      rw [Entries.within] at hchange
      split at hchange
      · obtain ⟨inner, hinner, rfl⟩ := Option.map_eq_some_iff.1 hchange
        have hdeeper := ih haveDistinctKeys_nil hinner
        exact hentries.put (.table hdeeper.keys hdeeper.nodes)
      · next origin inner hlookup =>
          obtain ⟨made, hmade, rfl⟩ := Option.map_eq_some_iff.1 hchange
          have hdeeper := ih (.of_table (hentries.lookup hlookup)) hmade
          exact hentries.put (.table hdeeper.keys hdeeper.nodes)
      · next finished latest hlookup =>
          obtain ⟨made, hmade, rfl⟩ := Option.map_eq_some_iff.1 hchange
          cases hentries.lookup hlookup with
          | tables hfinished hkeys hnodes =>
              have hdeeper := ih ⟨hkeys, hnodes⟩ hmade
              exact hentries.put (.tables hfinished hdeeper.keys hdeeper.nodes)
      · cases hchange

/-- Declaring a table keeps keys distinct. -/
theorem keeps_declare (sectionNumber : Nat) (key : Text) : Keeps (declare sectionNumber key) := by
  intro entries changed hentries hchange
  rw [declare] at hchange
  split at hchange
  · cases hchange
    exact hentries.put (.table List.nodup_nil (fun _ hentry => nomatch hentry))
  · next origin inner hlookup =>
      have hinner := HaveDistinctKeys.of_table (hentries.lookup hlookup)
      split at hchange
      · cases hchange
      · cases hchange
        exact hentries.put (.table hinner.keys hinner.nodes)
  · cases hchange

/-- Appending to a list of tables keeps keys distinct. -/
theorem keeps_append (key : Text) : Keeps (append key) := by
  intro entries changed hentries hchange
  have hempty := haveDistinctKeys_nil
  rw [append] at hchange
  split at hchange
  · cases hchange
    exact hentries.put (.tables (fun _ hdatum => nomatch hdatum) hempty.keys hempty.nodes)
  · next finished latest hlookup =>
      cases hchange
      have hlist := (hentries.lookup hlookup).toDatum
      rw [Node.toDatum] at hlist
      cases hlist with
      | list hitems => exact hentries.put (.tables hitems hempty.keys hempty.nodes)
  · cases hchange

/-- Giving a value with distinct keys to a key keeps keys distinct. -/
theorem keeps_assign (sectionNumber : Nat) (path : List Text) (last : Text) {value : Datum}
    (hvalue : value.HasDistinctKeys) : Keeps (assign sectionNumber path last value) := by
  induction path with
  | nil =>
      intro entries changed hentries hchange
      rw [assign] at hchange
      split at hchange
      · cases hchange
        exact hentries.put (.value hvalue)
      · cases hchange
  | cons key deeper ih =>
      intro entries changed hentries hchange
      -- whatever the table on the way is extended from, the value is given inside it
      have hextend : ∀ {inner : Entries}, HaveDistinctKeys inner →
          ((assign sectionNumber deeper last value inner).map fun made =>
            Entries.put key (.table (.dotted sectionNumber) made) entries) = some changed →
          HaveDistinctKeys changed := by
        intro inner hinner hmap
        obtain ⟨made, hmade, rfl⟩ := Option.map_eq_some_iff.1 hmap
        have hdeeper := ih hinner hmade
        exact hentries.put (.table hdeeper.keys hdeeper.nodes)
      rw [assign] at hchange
      split at hchange
      · exact hextend haveDistinctKeys_nil hchange
      · next origin inner hlookup =>
          split at hchange
          · cases hchange
          · exact hextend (.of_table (hentries.lookup hlookup)) hchange
      · cases hchange

end Entries

/-- What has to be there is there. -/
theorem required_eq_ok_iff {α : Type} {answer : Option α} {read : α} :
    required answer = .ok read ↔ answer = some read := by
  cases answer <;> simp [required]

/-- A decimal number is an integer or a fraction. -/
theorem decimal_hasDistinctKeys {negative : Bool} {text rest : Text} {datum : Datum}
    (h : decimal negative text = .ok (datum, rest)) : datum.HasDistinctKeys := by
  obtain ⟨⟨whole, behind⟩, -, h⟩ := Except.bind_eq_ok_iff.1 h
  simp only at h
  split at h
  · split at h
    · split at h
      · cases h
      · cases h
        exact .int _
    · cases h
      exact .float _
  · cases h
    exact .float _

/-- A number is an integer or a fraction. -/
theorem number_hasDistinctKeys {text rest : Text} {datum : Datum}
    (h : number text = .ok (datum, rest)) : datum.HasDistinctKeys := by
  unfold number at h
  simp only at h
  split at h
  · cases h
    exact .int _
  · split at h
    · cases h
      exact .float _
    · cases h
      exact .float _
    · exact decimal_hasDistinctKeys h

/-- With so much fuel, values, items and entries are read with distinct keys. -/
structure Reads (fuel : Nat) : Prop where
  value : ∀ {text rest : Text} {datum : Datum}, value fuel text = .ok (datum, rest) →
    datum.HasDistinctKeys
  items : ∀ {text rest : Text} {data : List Datum}, items fuel text = .ok (data, rest) →
    ∀ datum ∈ data, datum.HasDistinctKeys
  pairs : ∀ {text rest : Text} {made entries : Entries}, Entries.HaveDistinctKeys made →
    pairs fuel made text = .ok (entries, rest) → Entries.HaveDistinctKeys entries

variable {fuel : Nat} {text rest : Text}

/-- A value is read with distinct keys if what stands inside it is. -/
theorem Reads.value_succ (h : Reads fuel) {datum : Datum}
    (hread : Toml.value (fuel + 1) text = .ok (datum, rest)) : datum.HasDistinctKeys := by
  unfold Toml.value at hread
  split at hread
  · obtain ⟨⟨t, behind⟩, -, hvalue⟩ := Except.map_eq_ok_iff.1 hread
    cases hvalue
    exact .text t
  · obtain ⟨⟨t, behind⟩, -, hvalue⟩ := Except.map_eq_ok_iff.1 hread
    cases hvalue
    exact .text t
  · cases hread
    exact .bool true
  · cases hread
    exact .bool false
  · obtain ⟨⟨data, behind⟩, hitems, hvalue⟩ := Except.map_eq_ok_iff.1 hread
    cases hvalue
    exact .list (h.items hitems)
  · split at hread
    · cases hread
      exact .table List.nodup_nil (fun _ hentry => nomatch hentry)
    · obtain ⟨⟨made, behind⟩, hpairs, hvalue⟩ := Except.map_eq_ok_iff.1 hread
      cases hvalue
      have hmade := h.pairs Entries.haveDistinctKeys_nil hpairs
      exact table_entriesToData hmade.keys fun entry hentry => (hmade.nodes entry hentry).toDatum
  · split at hread
    · next read hmoment =>
        cases hread
        obtain ⟨⟨kind, behind⟩, -, hvalue⟩ := Option.map_eq_some_iff.1 hmoment
        cases hvalue
        exact .moment kind _
    · exact number_hasDistinctKeys hread

/-- Items are read with distinct keys if values and further items are. -/
theorem Reads.items_succ (h : Reads fuel) {data : List Datum}
    (hread : Toml.items (fuel + 1) text = .ok (data, rest)) :
    ∀ datum ∈ data, datum.HasDistinctKeys := by
  rw [Toml.items] at hread
  obtain ⟨begun, -, hread⟩ := Except.bind_eq_ok_iff.1 hread
  split at hread
  · cases hread
    intro datum hdatum
    cases hdatum
  · obtain ⟨⟨first, behind⟩, hfirst, hread⟩ := Except.bind_eq_ok_iff.1 hread
    obtain ⟨left, -, hread⟩ := Except.bind_eq_ok_iff.1 hread
    split at hread
    · cases hread
      intro datum hdatum
      rw [List.mem_singleton.1 hdatum]
      exact h.value hfirst
    · obtain ⟨⟨more, behind⟩, hmore, hread⟩ := Except.bind_eq_ok_iff.1 hread
      cases hread
      exact List.forall_mem_cons.2 ⟨h.value hfirst, h.items hmore⟩
    · cases hread

/-- Entries are read with distinct keys if values and further entries are. -/
theorem Reads.pairs_succ (h : Reads fuel) {made entries : Entries}
    (hmade : Entries.HaveDistinctKeys made)
    (hread : Toml.pairs (fuel + 1) made text = .ok (entries, rest)) :
    Entries.HaveDistinctKeys entries := by
  rw [Toml.pairs] at hread
  obtain ⟨⟨key, behind⟩, -, hread⟩ := Except.bind_eq_ok_iff.1 hread
  simp only at hread
  split at hread
  · obtain ⟨⟨datum, behind⟩, hdatum, hread⟩ := Except.bind_eq_ok_iff.1 hread
    obtain ⟨changed, hchange, hread⟩ := Except.bind_eq_ok_iff.1 hread
    have hchanged : Entries.HaveDistinctKeys changed :=
      Entries.keeps_assign 0 _ _ (h.value hdatum) hmade (required_eq_ok_iff.1 hchange)
    split at hread
    · cases hread
      exact hchanged
    · exact h.pairs hchanged hread
    · cases hread
  · cases hread

/-- Whatever the fuel, keys are read distinct. -/
theorem reads (fuel : Nat) : Reads fuel := by
  induction fuel with
  | zero =>
      refine ⟨?_, ?_, ?_⟩
      · intro text rest datum hread
        rw [value] at hread
        cases hread
      · intro text rest data hread
        rw [items] at hread
        cases hread
      · intro text rest made entries hmade hread
        rw [pairs] at hread
        cases hread
  | succ fuel ih => exact ⟨ih.value_succ, ih.items_succ, ih.pairs_succ⟩

/-- A statement keeps the keys of a draft distinct. -/
theorem statement_hasDistinctKeys {draft next : Draft}
    (hdraft : Entries.HaveDistinctKeys draft.entries)
    (h : statement fuel draft text = .ok (next, rest)) : Entries.HaveDistinctKeys next.entries := by
  unfold statement at h
  split at h
  · have hheader := required_eq_ok_iff.1 h
    simp only [listHeader?, Option.bind_eq_bind, Option.bind_eq_some_iff] at hheader
    obtain ⟨⟨key, behind⟩, -, entries, hentries, hheader⟩ := hheader
    split at hheader
    · cases hheader
      exact Entries.Keeps.within (Entries.keeps_append _) _ hdraft hentries
    · cases hheader
  · have hheader := required_eq_ok_iff.1 h
    simp only [tableHeader?, Option.bind_eq_bind, Option.bind_eq_some_iff] at hheader
    obtain ⟨⟨key, behind⟩, -, entries, hentries, hheader⟩ := hheader
    split at hheader
    · cases hheader
      exact Entries.Keeps.within (Entries.keeps_declare _ _) _ hdraft hentries
    · cases hheader
  · cases h
    exact hdraft
  · cases h
    exact hdraft
  · cases h
    exact hdraft
  · unfold keyValue at h
    obtain ⟨⟨key, behind⟩, -, h⟩ := Except.bind_eq_ok_iff.1 h
    simp only at h
    split at h
    · obtain ⟨⟨datum, behind⟩, hdatum, h⟩ := Except.bind_eq_ok_iff.1 h
      obtain ⟨entries, hentries, h⟩ := Except.bind_eq_ok_iff.1 h
      cases h
      have hkeeps : Entries.Keeps _ := Entries.keeps_assign draft.sectionNumber key.dropLast
        (key.getLast?.getD []) ((reads fuel).value hdatum)
      exact Entries.Keeps.within hkeeps _ hdraft (required_eq_ok_iff.1 hentries)
    · cases h

/-- Statements keep the keys of a draft distinct. -/
theorem statements_hasDistinctKeys {draft final : Draft}
    (hdraft : Entries.HaveDistinctKeys draft.entries)
    (h : statements fuel draft text = .ok final) : Entries.HaveDistinctKeys final.entries := by
  induction fuel generalizing draft text with
  | zero =>
      rw [statements] at h
      cases h
  | succ fuel ih =>
      rw [statements] at h
      obtain ⟨⟨next, behind⟩, hnext, h⟩ := Except.bind_eq_ok_iff.1 h
      have hstatement := statement_hasDistinctKeys hdraft hnext
      obtain ⟨left, -, h⟩ := Except.bind_eq_ok_iff.1 h
      split at h
      · cases h
        exact hstatement
      · exact ih hstatement h
      · cases h

/-- A document describes a table, in which, as in all tables inside it, each key stands once. -/
theorem parse_hasDistinctKeys {document : Datum} (h : parse text = .ok document) :
    document.HasDistinctKeys ∧ ∃ entries, document = .table entries := by
  obtain ⟨draft, hdraft, rfl⟩ := Except.map_eq_ok_iff.1 h
  have hentries := statements_hasDistinctKeys Entries.haveDistinctKeys_nil hdraft
  exact ⟨table_entriesToData hentries.keys fun entry hentry =>
    (hentries.nodes entry hentry).toDatum, _, rfl⟩

end Toml

end TextCursor
