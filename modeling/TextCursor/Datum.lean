import TextCursor.Number.ShortestDecimal
import TextCursor.Quoted

/-!
# Data

The values that settings files hold, that callers hand in where the library expects something more
definite, and that messages then show.
-/

namespace TextCursor

/-- What a date or time tells: a day, a time of day, or both, and then perhaps also the offset from
universal time. -/
inductive MomentKind where
  | date
  | time
  | localDateTime
  | offsetDateTime
  deriving DecidableEq

/-- A value of a document: nothing, a truth value, a number, a text, a date or time as it was
written, a list, or a table whose entries keep their order. -/
inductive Datum where
  | null
  | bool (b : Bool)
  | int (n : Int)
  | float (x : Binary64)
  | text (t : Text)
  | moment (kind : MomentKind) (written : Text)
  | list (items : List Datum)
  | table (entries : List (Text × Datum))

namespace Datum

/-- The name of the kind of value, as messages give it. -/
def kindName : Datum → Text
  | null => Text.lit "NoneType"
  | bool _ => Text.lit "bool"
  | int _ => Text.lit "int"
  | float _ => Text.lit "float"
  | text _ => Text.lit "str"
  | moment .date _ => Text.lit "date"
  | moment .time _ => Text.lit "time"
  | moment .localDateTime _ | moment .offsetDateTime _ => Text.lit "datetime"
  | list _ => Text.lit "list"
  | table _ => Text.lit "dict"

/-- The name of the kind of value together with the family it belongs to, which only dates and
times have. -/
def fullKindName (d : Datum) : Text :=
  match d with
  | moment .. => Text.lit "datetime." ++ d.kindName
  | _ => d.kindName

mutual

/-- The value as messages show it. -/
def describe : Datum → Text
  | null => Text.lit "None"
  | bool b => if b then Text.lit "True" else Text.lit "False"
  | int n => Text.ofInt n
  | float x => x.toText
  | text t => t.quote
  | moment _ written => written
  | list items => Text.lit "[" ++ describeItems items ++ Text.lit "]"
  | table entries => Text.lit "\x7b" ++ describeEntries entries ++ Text.lit "\x7d"

/-- The items of a list, separated by commas. -/
def describeItems : List Datum → Text
  | [] => []
  | [item] => item.describe
  | item :: later => item.describe ++ Text.lit ", " ++ describeItems later

/-- The entries of a table, separated by commas. -/
def describeEntries : List (Text × Datum) → Text
  | [] => []
  | [(key, value)] => key.quote ++ Text.lit ": " ++ value.describe
  | (key, value) :: later =>
      key.quote ++ Text.lit ": " ++ value.describe ++ Text.lit ", " ++ describeEntries later

end

/-- The entries with this value under the key: in place of an earlier one, or at the end. -/
def putEntry (key : Text) (value : Datum) : List (Text × Datum) → List (Text × Datum)
  | [] => [(key, value)]
  | (other, old) :: later =>
      if other = key then (key, value) :: later else (other, old) :: putEntry key value later

/-- The entry of a table under this key. -/
def field? (key : Text) : Datum → Option Datum
  | table entries => entries.lookup key
  | _ => none

end Datum

/-- Texts as a fixed row of values: quoted, in round brackets, a single one with a comma. -/
def Text.describeRow (texts : List Text) : Text :=
  match texts with
  | [only] => Text.lit "(" ++ only.quote ++ Text.lit ",)"
  | _ => Text.lit "(" ++ Text.join (Text.lit ", ") (texts.map Text.quote) ++ Text.lit ")"

end TextCursor
