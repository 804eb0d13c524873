import TextCursor.Datum
import TextCursor.Number.Numeral
import TextCursor.Settings.Basic

/-!
# Faults of configurations

Why a value or a file is not a configuration, or a configuration cannot be applied.
-/

namespace TextCursor

/-- Why a file cannot be read. -/
inductive ReadFault where
  | missing
  | directory

/-- The wording of the fault, for the file at this path. -/
def ReadFault.message (path : Text) : ReadFault → Text
  | missing => Text.lit "[Errno 2] No such file or directory: " ++ path.quote
  | directory => Text.lit "[Errno 21] Is a directory: " ++ path.quote

/-- Why there is no configuration. A value that is no table fails by what can be done with it:
texts and lists have members, which are taken for keys, and other values have not. Lists may have
members that cannot be keys, that are no texts, or that have no order among one another. -/
inductive ConfigurationFault where
  | unknownSettings (keys : List Text)
  | notText (key kindName : Text)
  | unreadable (path : Text) (fault : ReadFault)
  | undecodable
  | malformed (path : Text)
  | tooManyDigits (digits : Nat)
  | logging (fault : LoggingFault)
  | noMembers (kindName : Text)
  | noEntries (kindName : Text)
  | unusableKey (kindName : Text)
  | nameless (kindName : Text)
  | unordered (member other : Datum)

/-- The wording for two values that have no order. Dates with and without a time, and those with
and without an offset from universal time, are near enough to have a wording of their own. -/
def Datum.incomparable (a b : Datum) : Text :=
  let dates : List MomentKind := [.date, .localDateTime, .offsetDateTime]
  let general :=
    Text.lit "'<' not supported between instances of '" ++ a.fullKindName ++ Text.lit "' and '"
      ++ b.fullKindName ++ Text.lit "'"
  match a, b with
  | .moment kind _, .moment other _ =>
      if kind ∉ dates ∨ other ∉ dates then general
      else if kind = .date ∨ other = .date then
        Text.lit "can't compare datetime.datetime to datetime.date"
      else Text.lit "can't compare offset-naive and offset-aware datetimes"
  | _, _ => general

/-- The wording of the fault. -/
def ConfigurationFault.message : ConfigurationFault → Text
  | unknownSettings keys =>
      Text.lit "Unknown setting(s): " ++ Text.join (Text.lit ", ") (Text.sort keys)
  | notText key kindName =>
      Text.lit "Setting `" ++ key ++ Text.lit "` must be a string, not " ++ kindName
  | unreadable path fault =>
      Text.lit "Couldn't read `" ++ path ++ Text.lit "`: " ++ fault.message path
  | undecodable => []
  | malformed path => Text.lit "`" ++ path ++ Text.lit "` isn't valid TOML"
  | tooManyDigits digits => Numeral.excessMessage digits
  | logging fault => fault.message
  | noMembers kindName => Text.lit "'" ++ kindName ++ Text.lit "' object is not iterable"
  | noEntries kindName =>
      Text.lit "'" ++ kindName ++ Text.lit "' object has no attribute 'items'"
  | unusableKey kindName => Text.lit "unhashable type: '" ++ kindName ++ Text.lit "'"
  | nameless kindName =>
      Text.lit "sequence item 0: expected str instance, " ++ kindName ++ Text.lit " found"
  | unordered member other => member.incomparable other

end TextCursor
