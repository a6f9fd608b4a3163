import Shopfloor.Text.Case.Table
/-!
# Letter Case

The small and the capital form of a text, in every script that has case.

Most letters map one to one. A few capital forms are longer than the letter
they come from, and the dotted capital I lowers to an i with a combining dot.
One mapping looks around: a capital sigma at the end of a word lowers to the
final sigma. A word ends where no letter with case follows, marks that are
ignored for case being passed over on both sides.

## Main definitions

* `lowerChar`, `upperChar`: The mapping of one character on its own.
* `endsWord`: Whether a capital sigma between two stretches of text is final.
* `lower`, `upper`: The two forms of a text.
-/

namespace Shopfloor

namespace Text

/-- Whether a code point lies in one of the given ranges. -/
def inRanges (rs : List (Nat × Nat)) (c : Char) : Bool :=
  rs.any fun r => r.1 ≤ c.toNat && c.toNat ≤ r.2

/-- Letters that have a case. -/
def isCased (c : Char) : Bool := inRanges casedRanges c

/-- Marks that are passed over when looking for a letter with case. -/
def isCaseIgnorable (c : Char) : Bool := inRanges caseIgnorableRanges c

/-- Moves a character by the first row that covers it. -/
def mapByRows (rows : List CaseRow) (c : Char) : Char :=
  match rows.find? fun r => r.covers c.toNat with
  | some r => Char.ofNat ((c.toNat : Int) + r.shift).toNat
  | none => c

/-- The small form of a character on its own. -/
def lowerChar (c : Char) : List Char :=
  if c.toNat < 128 then [c.toLower]
  else if c.toNat = 0x130 then ['i', Char.ofNat 0x307]
  else [mapByRows lowerRows c]

/-- The capital form of a character. -/
def upperChar (c : Char) : List Char :=
  if c.toNat < 128 then [c.toUpper]
  else match upperSequences.lookup c.toNat with
    | some ns => ns.map Char.ofNat
    | none => [mapByRows upperRows c]

/-- Whether the nearest character that counts for case is a letter with case. -/
def meetsCased (cs : List Char) : Bool :=
  match cs.dropWhile isCaseIgnorable with
  | c :: _ => isCased c
  | [] => false

/-- Whether a capital sigma ends a word, given the text before it, nearest first, and after it. -/
def endsWord (before after : List Char) : Bool := meetsCased before && !meetsCased after

/-- Lowers a text, given what stands before it, nearest first. -/
def lowerFrom (before : List Char) : List Char → List Char
  | [] => []
  | c :: cs =>
    let small :=
      if c.toNat = 0x3A3 then [if endsWord before cs then Char.ofNat 0x3C2 else Char.ofNat 0x3C3]
      else lowerChar c
    small ++ lowerFrom (c :: before) cs

/-- The small form of a text. -/
def lower (s : String) : String := String.ofList (lowerFrom [] s.toList)

/-- The capital form of a text. -/
def upper (s : String) : String := String.ofList (s.toList.flatMap upperChar)

end Text

end Shopfloor
