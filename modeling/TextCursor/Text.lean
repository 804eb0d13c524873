/-!
# Texts

A text is a list of characters, and all offsets into it count characters. This module holds the
plain text operations the rest of the library needs: search, and lists of words.
-/

namespace TextCursor

/-- A text, as the list of its characters. -/
abbrev Text := List Char

namespace Text

/-- The text of a literal. -/
abbrev lit (s : String) : Text := s.toList

/-- The offset of the first place where `needle` stands in the text, if there is one. The empty
text stands everywhere. -/
def indexOf? (needle : Text) : Text → Option Nat
  | [] => if needle = [] then some 0 else none
  | c :: rest =>
      if needle.isPrefixOf (c :: rest) then some 0
      else (indexOf? needle rest).map (· + 1)

/-- The texts in order, with `separator` between neighbours. -/
def join (separator : Text) (texts : List Text) : Text :=
  separator.intercalate texts

/-- The order of texts by their characters' code points, the first difference deciding. -/
def precedes (a b : Text) : Bool :=
  !decide (b < a)

/-- The texts in ascending order. Equal ones are all kept. -/
def sort (texts : List Text) : List Text :=
  texts.mergeSort precedes

/-- The decimal digits of a natural number, without leading zeros. -/
def ofNat (n : Nat) : Text :=
  Nat.toDigits 10 n

/-- The decimal text of an integer, with a sign only when it is negative. -/
def ofInt : Int → Text
  | .ofNat n => ofNat n
  | .negSucc n => '-' :: ofNat (n + 1)

end Text

end TextCursor
