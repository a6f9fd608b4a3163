/-!
# Lines

A text cut into lines at every line ending in use: carriage return and line
feed together, either of them alone. The last line needs no ending, and an
ending at the end of the text opens no further line.

## Main definitions

* `splitLines`: The lines of a text, without their endings.
-/

namespace Shopfloor

namespace Text

/-- Cuts characters into lines; `line` holds the current line, last character first. -/
def linesFrom (line : List Char) : List Char → List (List Char)
  | [] => if line.isEmpty then [] else [line.reverse]
  | '\r' :: '\n' :: cs => line.reverse :: linesFrom [] cs
  | c :: cs =>
    if c = '\n' || c = '\r' then line.reverse :: linesFrom [] cs else linesFrom (c :: line) cs

/-- The lines of a text, without their endings. -/
def splitLines (cs : List Char) : List (List Char) := linesFrom [] cs

end Text

end Shopfloor
