import Shopfloor.Text.Printable
/-!
# Quoted Text

A text in quotes, with everything that could not be seen written by its number.

Single quotes enclose the text, unless it holds a single quote and no double
one. The backslash and the enclosing quote are escaped, as are tab, line feed
and carriage return; every other character without a shape is written by its
code in two, four or eight hexadecimal digits.

## Main definitions

* `hexDigits`: A number in a fixed width of hexadecimal digits.
* `quote`: The quoted form of a text.
* `enlist`: A list of written values in brackets.
-/

namespace Shopfloor

namespace Text

/-- One hexadecimal digit in its small form. -/
def hexDigit (n : Nat) : Char :=
  if n < 10 then Char.ofNat (48 + n) else Char.ofNat (87 + n)

/-- The last `width` hexadecimal digits of a number. -/
def hexDigits : Nat → Nat → List Char
  | 0, _ => []
  | width + 1, n => hexDigits width (n / 16) ++ [hexDigit (n % 16)]

/-- The quote that encloses a text: single, unless only single quotes occur in it. -/
def enclosingQuote (cs : List Char) : Char :=
  if cs.contains '\'' && !cs.contains '"' then '"' else '\''

/-- How one character is written between quotes. -/
def escapeChar (mark : Char) (c : Char) : List Char :=
  if c = mark || c = '\\' then ['\\', c]
  else if c = '\t' then ['\\', 't']
  else if c = '\n' then ['\\', 'n']
  else if c = '\r' then ['\\', 'r']
  else if isPrintable c then [c]
  else if c.toNat < 0x100 then '\\' :: 'x' :: hexDigits 2 c.toNat
  else if c.toNat < 0x10000 then '\\' :: 'u' :: hexDigits 4 c.toNat
  else '\\' :: 'U' :: hexDigits 8 c.toNat

/-- The quoted form of characters. -/
def quoteChars (cs : List Char) : List Char :=
  let mark := enclosingQuote cs
  mark :: (cs.flatMap (escapeChar mark) ++ [mark])

/-- The quoted form of a text. -/
def quote (s : String) : String := String.ofList (quoteChars s.toList)

/-- Written values between brackets. -/
def enlist (written : List String) : String := "[" ++ ", ".intercalate written ++ "]"

end Text

end Shopfloor
