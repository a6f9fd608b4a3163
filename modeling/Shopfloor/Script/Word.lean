/-!
# Words of a Line

A command line is a row of words with gaps between them. A gap is a run of
spaces, tabs and line breaks, and no other character separates words. Double
quotes take gaps into a word: inside them every character stands for itself,
and they may begin and end anywhere in a word, which goes on behind them. Two
quotes with nothing between them begin a word that is empty. Nothing is
escaped and nothing is a comment.

A line whose last quote is never closed has no words at all.

## Main definitions

* `Script.isGap`: The characters that separate words.
* `Script.Mode`: Where a reader stands between two characters.
* `Script.wordsFrom`: The words that a reader has still to find.
* `Script.words?`: The words of a line.
-/

namespace Shopfloor

namespace Script

/-- The characters that separate words. -/
def isGap (c : Char) : Bool := c = ' ' || c = '\t' || c = '\r' || c = '\n'

/-- Where a reader stands between two characters. -/
inductive Mode
  /-- No word has begun. -/
  | between
  /-- A word has begun, and no quote is open in it. -/
  | bare
  /-- A word has begun, and a quote is open in it. -/
  | quoted
deriving DecidableEq, Repr

/-- Puts a character in front of the word that comes first. -/
def pushFront (c : Char) : List (List Char) → List (List Char)
  | [] => [[c]]
  | w :: ws => (c :: w) :: ws

/-- The words that a reader has still to find; inside a word, the rest of that word comes first. -/
def wordsFrom : Mode → List Char → Option (List (List Char))
  | .between, [] => some []
  | .bare, [] => some [[]]
  | .quoted, [] => none
  | .between, c :: cs =>
    if isGap c then wordsFrom .between cs
    else if c = '"' then wordsFrom .quoted cs
    else (wordsFrom .bare cs).map (pushFront c)
  | .bare, c :: cs =>
    if isGap c then (wordsFrom .between cs).map ([] :: ·)
    else if c = '"' then wordsFrom .quoted cs
    else (wordsFrom .bare cs).map (pushFront c)
  | .quoted, c :: cs =>
    if c = '"' then wordsFrom .bare cs else (wordsFrom .quoted cs).map (pushFront c)

/-- The words of a line, unless a quote is left open. -/
def words? (line : String) : Option (List String) :=
  (wordsFrom .between line.toList).map (·.map String.ofList)

end Script

end Shopfloor
