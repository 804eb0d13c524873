import TextCursor.Extraction.Chopper

/-!
# Registries of choppers

Templates speak of choppers by name. A registry holds the choppers under their names; a later
registration under a name replaces the earlier one.
-/

namespace TextCursor

/-- Choppers under their names, each name once. -/
structure Registry (ε α : Type) where
  entries : List (Text × Chopper ε α)
  nodup : (entries.map Prod.fst).Nodup

namespace Registry

variable {ε α : Type}

/-- The chopper of this name. -/
def find? (registry : Registry ε α) (name : Text) : Option (Chopper ε α) :=
  registry.entries.lookup name

/-- An entry may be put in front of those with other names. -/
theorem nodup_cons_filter {entries : List (Text × Chopper ε α)}
    (h : (entries.map Prod.fst).Nodup) (name : Text) (chopper : Chopper ε α) :
    (((name, chopper) :: entries.filter (·.1 ≠ name)).map Prod.fst).Nodup := by
  rw [List.map_cons, List.nodup_cons]
  constructor
  · intro hname
    obtain ⟨entry, hentry, hsame⟩ := List.mem_map.1 hname
    exact of_decide_eq_true (List.mem_filter.1 hentry).2 hsame
  · exact h.sublist (List.filter_sublist.map Prod.fst)

/-- The registry with the chopper under this name, in place of an earlier one. -/
def insert (registry : Registry ε α) (name : Text) (chopper : Chopper ε α) : Registry ε α :=
  ⟨(name, chopper) :: registry.entries.filter (·.1 ≠ name),
    nodup_cons_filter registry.nodup name chopper⟩

/-- Taking out the entries of one name leaves what is found under the others. -/
theorem lookup_filter_ne {name other : Text} (h : other ≠ name)
    (entries : List (Text × Chopper ε α)) :
    (entries.filter (·.1 ≠ name)).lookup other = entries.lookup other := by
  induction entries with
  | nil => rfl
  | cons entry later ih =>
      obtain ⟨key, chopper⟩ := entry
      by_cases hkey : key = name
      · have hother : (other == name) = false := by simpa using h
        simpa [hkey, List.lookup_cons, hother] using ih
      · simp only [ne_eq, hkey, not_false_eq_true, decide_true, List.filter_cons_of_pos,
          List.lookup_cons]
        rw [ih]

/-- A registration changes what is found under its own name only. -/
theorem find?_insert (registry : Registry ε α) (name other : Text) (chopper : Chopper ε α) :
    (registry.insert name chopper).find? other =
      if other = name then some chopper else registry.find? other := by
  by_cases h : other = name
  · simp [find?, insert, h]
  · have hne : (other == name) = false := by simpa using h
    simp only [find?, insert, List.lookup_cons, hne, h, if_false]
    exact lookup_filter_ne h registry.entries

/-- The registry with the chopper under each of these names. -/
def insertAll (registry : Registry ε α) (names : List Text) (chopper : Chopper ε α) :
    Registry ε α :=
  names.foldl (fun filled name => filled.insert name chopper) registry

/-- The names in ascending order. -/
def names (registry : Registry ε α) : List Text :=
  Text.sort (registry.entries.map (·.1))

/-- The built-in choppers, each under its name and a short one. -/
def builtin : Registry ChopFault Datum :=
  let empty : Registry ChopFault Datum := ⟨[], List.nodup_nil⟩
  let withNumbers := (empty.insertAll [Text.lit "int", Text.lit "i"] Chopper.int).insertAll
    [Text.lit "float", Text.lit "f"] Chopper.float
  (withNumbers.insertAll [Text.lit "word", Text.lit "w"] Chopper.word).insertAll
    [Text.lit "optional", Text.lit "opt"] Chopper.optional

end Registry

end TextCursor
