import TextCursor.Unicode.CodeSet

/-!
# Blank characters

Blank characters separate words and may be trimmed. They are the characters with the White_Space
property apart from the next-line control U+0085, together with the zero width no-break space
U+FEFF.
-/

namespace TextCursor.Unicode

/-- The code points of blank characters. -/
def blankPoints : CodeSet where
  ranges := [
   ⟨0x9, 0xD⟩, ⟨0x20, 0x20⟩, ⟨0xA0, 0xA0⟩, ⟨0x1680, 0x1680⟩, ⟨0x2000, 0x200A⟩, ⟨0x2028, 0x2029⟩,
   ⟨0x202F, 0x202F⟩, ⟨0x205F, 0x205F⟩, ⟨0x3000, 0x3000⟩, ⟨0xFEFF, 0xFEFF⟩]

/-- The character is blank. -/
def isBlank (c : Char) : Bool :=
  blankPoints.holds c.toNat

end TextCursor.Unicode
