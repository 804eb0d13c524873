import TextCursor.Configuration.Basic
import TextCursor.Configuration.Fault
import TextCursor.Datum.Order

/-!
# Members as keys

Whatever is given as a configuration is asked for its members, and these are taken for keys: the
keys of a table, the characters of a text, the items of a list. Keys that name no setting are
reported in ascending order. So members that are no texts have to have an order as well, and then
the kind of the least of them is reported.
-/

namespace TextCursor

namespace Datum

/-- The members of a value, if it has any to ask for. -/
def members? : Datum → Option (List Datum)
  | .table entries => some (entries.map fun (key, _) => .text key)
  | .text t => some (t.map fun c => .text [c])
  | .list items => some items
  | _ => none

/-- The value can never be a key. -/
def isUnusable : Datum → Bool
  | .list _ | .table _ => true
  | _ => false

/-- The value names no setting. -/
def isStranger : Datum → Bool
  | .text key => (Setting.ofKey? key).isNone
  | _ => true

end Datum

namespace Configuration

/-- The texts among the members, each of them once. -/
def textsOf (members : List Datum) : List Text :=
  (members.filterMap fun
    | .text t => some t
    | _ => none).eraseDups

/-- The fault of members that name no setting. All members of a family but numbers are of one kind,
so it takes the least of them only among numbers, where the earlier one of equal numbers counts. -/
def strangers (first : Datum) (others : List Datum) : ConfigurationFault :=
  match others.find? fun member => member.family ≠ first.family with
  | some member => .unordered member first
  | none =>
      if first.family = .text then .unknownSettings (textsOf (first :: others))
      else
        let least := others.foldl (fun least member =>
          if member.isBelow least then member else least) first
        .nameless least.fullKindName

/-- Check that all members name settings. -/
def checkMembers (members : List Datum) : Except ConfigurationFault Unit :=
  match members.find? Datum.isUnusable with
  | some member => .error (.unusableKey member.kindName)
  | none =>
      match members.filter Datum.isStranger with
      | [] => .ok ()
      | first :: others => .error (strangers first others)

end Configuration

end TextCursor
