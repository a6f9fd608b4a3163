/-!
# Splitting

A text cut at every occurrence of a separator. A text without one is a single
piece, and the pieces of a text joined by the separator give the text back.

## Main definitions

* `splitChars`, `split`: The pieces of a text.
* `cutFirst`: The two sides of the first separator.
-/

namespace Shopfloor

namespace Text

/-- The pieces of characters between separators. -/
def splitChars (sep : Char) : List Char → List (List Char)
  | [] => [[]]
  | c :: cs =>
    if c = sep then [] :: splitChars sep cs
    else match splitChars sep cs with
      | piece :: pieces => (c :: piece) :: pieces
      | [] => [[c]]

/-- The pieces of a text between separators. -/
def split (sep : Char) (s : String) : List String := (splitChars sep s.toList).map String.ofList

/-- What stands before the first separator and what stands after it. -/
def cutFirst (sep : Char) (cs : List Char) : Option (List Char × List Char) :=
  match cs.dropWhile (· != sep) with
  | [] => none
  | _ :: rest => some (cs.takeWhile (· != sep), rest)

end Text

end Shopfloor
