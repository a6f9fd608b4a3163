/-!
# Blank Characters

White space as the shop reads it: the blanks of every script, together with
the four information separators of the control set. A text is trimmed of them
before it is taken as a token, a script line or the name of a choice.

Zero-width characters are not blank. They have no width and are still part of
the word they stand in.

## Main definitions

* `isBlank`: Whether a character is white space.
* `isWideBlank`: Whether it is white space beyond the ASCII set.
* `trimChars`, `trim`: A text without the blanks at its ends.
-/

namespace Shopfloor

namespace Text

/-- White space beyond the ASCII set. -/
def isWideBlank (c : Char) : Bool :=
  let n := c.toNat
  n == 0x85 || n == 0xA0 || n == 0x1680 || (0x2000 ≤ n && n ≤ 0x200A) || n == 0x2028 || n == 0x2029
    || n == 0x202F || n == 0x205F || n == 0x3000

/-- White space: tabs, line and page breaks, the information separators, and the blanks of every
    script. -/
def isBlank (c : Char) : Bool :=
  let n := c.toNat
  (9 ≤ n && n ≤ 13) || (28 ≤ n && n ≤ 32) || isWideBlank c

/-- Drops what passes a test at both ends. -/
def trimBoth (p : Char → Bool) (cs : List Char) : List Char :=
  ((cs.dropWhile p).reverse.dropWhile p).reverse

/-- Characters without the blanks at their ends. -/
def trimChars (cs : List Char) : List Char := trimBoth isBlank cs

/-- A text without the blanks at its ends. -/
def trim (s : String) : String := String.ofList (trimChars s.toList)

/-- Whether a text holds nothing but blanks. -/
def isBlankText (s : String) : Bool := s.toList.all isBlank

end Text

end Shopfloor
