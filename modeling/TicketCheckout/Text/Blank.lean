/-!
# Blank characters

The characters that separate words: the ASCII controls from tab to carriage return, the four
information separators, the space, and the Unicode spaces and line separators (bidirectional
classes WS, B and S together with general category Zs). Trimming removes them from both ends
of a text; splitting on blanks never yields an empty piece.

Number readers trim a narrower class, the Unicode property `White_Space` (`isWhiteSpace`):
the blanks without the four information separators `U+001C` to `U+001F`.
-/

namespace TicketCheckout.Text

/-- Blank characters; see the module comment for the set. -/
def isBlank (c : Char) : Bool :=
  let n := c.toNat
  (9 ≤ n && n ≤ 13) || (28 ≤ n && n ≤ 32) || n == 0x85 || n == 0xA0 || n == 0x1680 ||
    (0x2000 ≤ n && n ≤ 0x200A) || n == 0x2028 || n == 0x2029 || n == 0x202F ||
    n == 0x205F || n == 0x3000

/-- Characters with the Unicode property `White_Space`; see the module comment. -/
def isWhiteSpace (c : Char) : Bool := isBlank c && !(28 ≤ c.toNat && c.toNat ≤ 31)

/-- Removes the `White_Space` characters at both ends of a list of characters. -/
def trimWhiteSpaceChars (cs : List Char) : List Char :=
  ((cs.dropWhile isWhiteSpace).reverse.dropWhile isWhiteSpace).reverse

/-- Drops the blanks at the front of a list of characters. -/
def dropBlanks (cs : List Char) : List Char := cs.dropWhile isBlank

/-- Removes the blanks at both ends of a list of characters. -/
def trimBlankChars (cs : List Char) : List Char :=
  (dropBlanks (dropBlanks cs).reverse).reverse

/-- Removes the blanks at both ends of a text. -/
def trimBlanks (s : String) : String := String.ofList (trimBlankChars s.toList)

theorem isBlank_space : isBlank ' ' = true := rfl

theorem isWhiteSpace_isBlank (c : Char) (h : isWhiteSpace c = true) : isBlank c = true := by
  simp only [isWhiteSpace, Bool.and_eq_true] at h
  exact h.1

example : isWhiteSpace '\x1c' = false ∧ isBlank '\x1c' = true := by decide

end TicketCheckout.Text
