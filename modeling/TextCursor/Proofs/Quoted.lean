import Mathlib.Algebra.Group.Nat.Defs
import Mathlib.Tactic.SplitIfs
import TextCursor.Quoted
import TextCursor.Toml.Lexeme

/-!
# Reading quoted text

What an escape stands for is decided by the escape alone, whatever follows it
(`Quoted.unescape?_escape`), and no escape begins with the quote. So a quoted text has one reading:
what is quoted, and what follows, are determined by the whole (`Text.quote_append_inj`).
-/

namespace TextCursor

namespace Quoted

/-! ### Hexadecimal digits -/

/-- A digit has the value of which it is the digit. -/
theorem digitValue_digitChar : ∀ n < 16, Toml.digitValue n.digitChar = n := by
  decide

/-- The digits of numbers up to fifteen are hexadecimal ones. -/
theorem isHexDigit_digitChar : ∀ n < 16, Toml.isHexDigit n.digitChar = true := by
  decide

/-- The value of digits with one more behind them. -/
theorem digitsValue_concat (base : Nat) (digits : Text) (c : Char) :
    Toml.digitsValue base (digits ++ [c]) =
      base * Toml.digitsValue base digits + Toml.digitValue c := by
  rw [Toml.digitsValue, List.foldl_append]
  rfl

/-- The digits of a number have its value. -/
theorem digitsValue_toDigits (n : Nat) : Toml.digitsValue 16 (Nat.toDigits 16 n) = n := by
  induction n using Nat.strongRecOn with
  | ind n ih =>
      rw [Nat.toDigits_eq_if (by decide)]
      split
      · next hlt =>
          rw [← List.nil_append [n.digitChar], digitsValue_concat, digitValue_digitChar n hlt]
          exact Nat.zero_add n
      · next hge =>
          rw [digitsValue_concat, ih (n / 16) (by omega),
            digitValue_digitChar _ (Nat.mod_lt n (by decide))]
          exact Nat.div_add_mod n 16

/-- The digits of a number are hexadecimal ones. -/
theorem isHexDigit_of_mem_toDigits {n : Nat} :
    ∀ c ∈ Nat.toDigits 16 n, Toml.isHexDigit c = true := by
  induction n using Nat.strongRecOn with
  | ind n ih =>
      rw [Nat.toDigits_eq_if (by decide)]
      split
      · next hlt =>
          rw [List.forall_mem_singleton]
          exact isHexDigit_digitChar n hlt
      · next hge =>
          rw [List.forall_mem_append, List.forall_mem_singleton]
          exact ⟨ih (n / 16) (by omega), isHexDigit_digitChar _ (Nat.mod_lt n (by decide))⟩

/-- Leading zeros do not change a value. -/
theorem digitsValue_replicate_append (base count : Nat) (digits : Text) :
    Toml.digitsValue base (List.replicate count '0' ++ digits) = Toml.digitsValue base digits := by
  induction count with
  | zero => rfl
  | succ count ih => exact ih

variable {width code : Nat}

/-- Digits with leading zeros are as many as the width says, if there is room for them. -/
theorem length_hexadecimal (hwidth : 0 < width) (hcode : code < 16 ^ width) :
    (hexadecimal width code).length = width := by
  have hlength := (Nat.length_toDigits_le_iff (by decide) hwidth).2 hcode
  rw [hexadecimal, List.length_append, List.length_replicate, Nat.sub_add_cancel hlength]

/-- A number in hexadecimal digits is read back, whatever follows it. -/
theorem fixedDigits?_hexadecimal (hwidth : 0 < width) (hcode : code < 16 ^ width) (rest : Text) :
    Toml.fixedDigits? 16 width Toml.isHexDigit (hexadecimal width code ++ rest) =
      some (code, rest) := by
  have hlength := length_hexadecimal hwidth hcode
  have hdigits : (hexadecimal width code).all Toml.isHexDigit = true := by
    rw [List.all_eq_true, hexadecimal, List.forall_mem_append]
    refine ⟨?_, isHexDigit_of_mem_toDigits⟩
    intro c hc
    rw [List.eq_of_mem_replicate hc]
    rfl
  have hvalue : Toml.digitsValue 16 (hexadecimal width code) = code := by
    rw [hexadecimal, digitsValue_replicate_append, digitsValue_toDigits]
  simp only [Toml.fixedDigits?, List.take_left' hlength, List.drop_left' hlength]
  rw [if_pos ⟨hlength, hdigits⟩, hvalue]

/-! ### Escapes -/

/-- How many hexadecimal digits follow this mark of an escape by code point. -/
def width? : Char → Option Nat
  | 'x' => some 2
  | 'u' => some 4
  | 'U' => some 8
  | _ => none

/-- The character that is written as this one behind a backslash. -/
def marked : Char → Char
  | 'n' => '\n'
  | 'r' => '\r'
  | 't' => '\t'
  | c => c

/-- The first character of a text with escapes, and what follows it. -/
def unescape? : Text → Option (Char × Text)
  | [] => none
  | '\\' :: mark :: rest =>
      match width? mark with
      | none => some (marked mark, rest)
      | some width =>
          (Toml.fixedDigits? 16 width Toml.isHexDigit rest).map fun (code, behind) =>
            (Char.ofNat code, behind)
  | c :: rest => some (c, rest)

/-- A character that stands for itself is read as it stands. -/
theorem unescape?_of_ne {c : Char} (h : c ≠ '\\') (rest : Text) :
    unescape? (c :: rest) = some (c, rest) := by
  unfold unescape?
  split <;> simp_all

/-- An escape by code point is read as the character. -/
theorem unescape?_hexadecimal {mark c : Char} (hmark : width? mark = some width)
    (hwidth : 0 < width) (hcode : c.toNat < 16 ^ width) (rest : Text) :
    unescape? ('\\' :: mark :: (hexadecimal width c.toNat ++ rest)) = some (c, rest) := by
  simp only [unescape?, hmark, fixedDigits?_hexadecimal hwidth hcode, Option.map_some,
    Char.ofNat_toNat]

/-- The escape of a character by its code point is read as the character. -/
theorem unescape?_escapeCode (c : Char) (rest : Text) :
    unescape? (escapeCode c ++ rest) = some (c, rest) := by
  unfold escapeCode
  simp only
  split
  · next hcode => exact unescape?_hexadecimal rfl (by decide) hcode rest
  · split
    · next hcode => exact unescape?_hexadecimal rfl (by decide) hcode rest
    · have hcode : c.toNat < 16 ^ 8 := c.val.toNat_lt
      exact unescape?_hexadecimal rfl (by decide) hcode rest

/-- The character may stand as the quote around texts. -/
def IsQuote (quote : Char) : Prop :=
  quote = single ∨ quote = double

variable {quote : Char}

/-- A character between quotes is read back, whatever follows it. -/
theorem unescape?_escape (hquote : IsQuote quote) (c : Char) (rest : Text) :
    unescape? (escape quote c ++ rest) = some (c, rest) := by
  unfold escape
  split
  · next hc =>
      rcases hc with rfl | rfl
      · rfl
      · rcases hquote with rfl | rfl
        · rfl
        · rfl
  · next hc =>
      split_ifs with hline hreturn htab hprintable
      · rw [hline]
        rfl
      · rw [hreturn]
        rfl
      · rw [htab]
        rfl
      · exact unescape?_of_ne (fun h => hc (.inl h)) rest
      · exact unescape?_escapeCode c rest

/-- The escape of a character by its code point begins with a backslash. -/
theorem head?_escapeCode (c : Char) : (escapeCode c).head? = some '\\' := by
  unfold escapeCode
  simp only
  split_ifs <;> rfl

/-- No escape begins with the quote. -/
theorem head?_escape_ne (hquote : IsQuote quote) (c : Char) :
    (escape quote c).head? ≠ some quote := by
  have hbackslash : some '\\' ≠ some quote := by rcases hquote with rfl | rfl <;> decide
  unfold escape
  split
  · exact hbackslash
  · next hc =>
      split_ifs with hline hreturn htab hprintable
      · exact hbackslash
      · exact hbackslash
      · exact hbackslash
      · intro hhead
        exact hc (.inr (Option.some.inj hhead))
      · rw [head?_escapeCode]
        exact hbackslash

/-! ### Quoted texts -/

/-- The escape of a character can be cancelled from the front of a text. -/
theorem escape_append_inj (hquote : IsQuote quote) {c d : Char} {rest other : Text}
    (h : escape quote c ++ rest = escape quote d ++ other) : c = d ∧ rest = other := by
  have hread := congrArg unescape? h
  rw [unescape?_escape hquote, unescape?_escape hquote] at hread
  cases hread
  exact ⟨rfl, rfl⟩

/-- No escape stands where the quote that ends a text stands. -/
theorem cons_ne_escape_append (hquote : IsQuote quote) (c : Char) (rest other : Text) :
    quote :: rest ≠ escape quote c ++ other := by
  intro h
  refine head?_escape_ne hquote c ?_
  cases hescape : escape quote c with
  | nil =>
      -- an escape that were empty would be read as no character
      have hread := unescape?_escape hquote c []
      rw [hescape] at hread
      cases hread
  | cons first later =>
      rw [hescape] at h
      cases h
      rfl

/-- What stands between quotes ends at the first quote, and says which text it is. -/
theorem flatMap_escape_inj (hquote : IsQuote quote) {t u rest other : Text}
    (h : t.flatMap (escape quote) ++ quote :: rest = u.flatMap (escape quote) ++ quote :: other) :
    t = u ∧ rest = other := by
  induction t generalizing u with
  | nil =>
      cases u with
      | nil => exact ⟨rfl, List.tail_eq_of_cons_eq h⟩
      | cons d more =>
          rw [List.flatMap_cons, List.append_assoc] at h
          exact absurd h (cons_ne_escape_append hquote d rest _)
  | cons c later ih =>
      rw [List.flatMap_cons, List.append_assoc] at h
      cases u with
      | nil => exact absurd h.symm (cons_ne_escape_append hquote c other _)
      | cons d more =>
          rw [List.flatMap_cons, List.append_assoc] at h
          obtain ⟨rfl, hlater⟩ := escape_append_inj hquote h
          obtain ⟨rfl, hrest⟩ := ih hlater
          exact ⟨rfl, hrest⟩

/-- One of the two quotes stands around each text. -/
theorem isQuote_delimiter (text : Text) : IsQuote (delimiter text) := by
  unfold delimiter
  split
  · exact .inr rfl
  · exact .inl rfl

end Quoted

/-- A quoted text can be cancelled from the front of a text. -/
theorem Text.quote_append_inj {t u rest other : Text}
    (h : t.quote ++ rest = u.quote ++ other) : t = u ∧ rest = other := by
  simp only [quote, List.cons_append, List.append_assoc, List.nil_append] at h
  obtain ⟨hdelimiter, hbody⟩ := List.cons.inj h
  rw [hdelimiter] at hbody
  exact Quoted.flatMap_escape_inj (Quoted.isQuote_delimiter u) hbody

end TextCursor
