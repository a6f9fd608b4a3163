/-!
# Base 64

Bytes from the standard base 64 alphabet, read strictly.

Four characters carry three bytes; the characters that have arrived since the
last complete group form the open group. The padding mark `=` closes an open
group of two or three characters when as many marks have come as characters
are missing, and nothing may follow. Where no group of at least two is open
the mark carries nothing and is passed over, but it still ends the data: a
character of the alphabet after a mark is refused, as is a mark in front of
everything, any other character, and a text that ends in an open group. The
bits of the last character that complete no byte are ignored.

## Main definitions

* `Base64.sextet?`: The six bits of a character.
* `Base64.Reader`: The state between two characters.
* `Base64.decode`: The bytes of a text, if it is well formed.
* `Base64.encode`: The padded text of bytes.
-/

namespace Shopfloor

namespace Base64

/-- The six bits that a character of the alphabet stands for. -/
def sextet? (c : Char) : Option Nat :=
  let n := c.toNat
  if 65 ≤ n && n ≤ 90 then some (n - 65)
  else if 97 ≤ n && n ≤ 122 then some (n - 71)
  else if 48 ≤ n && n ≤ 57 then some (n + 4)
  else if c = '+' then some 62
  else if c = '/' then some 63
  else none

/-- The character that stands for six bits. -/
def letter (v : Nat) : Char :=
  if v < 26 then Char.ofNat (65 + v)
  else if v < 52 then Char.ofNat (71 + v)
  else if v < 62 then Char.ofNat (v - 4)
  else if v = 62 then '+'
  else '/'

/-- A reader between two characters. -/
structure Reader where
  /-- The bytes read, the last one first. -/
  bytes : List UInt8
  /-- The characters of the open group. -/
  filled : Nat
  /-- The bits of the last character that belong to the next byte. -/
  bits : Nat
  /-- The padding marks that have come for the open group. -/
  pads : Nat
  /-- Whether a padding mark has come at all. -/
  padded : Bool
deriving DecidableEq, Repr

/-- A reader before the first character. -/
def Reader.fresh : Reader := ⟨[], 0, 0, 0, false⟩

/-- Takes six bits into the open group. -/
def Reader.push (r : Reader) (v : Nat) : Reader :=
  match r.filled with
  | 0 => { r with filled := 1, bits := v, pads := 0 }
  | 1 =>
    { r with
      bytes := (r.bits * 4 + v / 16).toUInt8 :: r.bytes, filled := 2, bits := v % 16, pads := 0 }
  | 2 =>
    { r with
      bytes := (r.bits * 16 + v / 4).toUInt8 :: r.bytes, filled := 3, bits := v % 4, pads := 0 }
  | _ => { r with bytes := (r.bits * 64 + v).toUInt8 :: r.bytes, filled := 0, bits := 0, pads := 0 }

/-- Reads the characters to the end. -/
def Reader.run (r : Reader) : List Char → Option (List UInt8)
  | [] => if r.filled = 0 then some r.bytes.reverse else none
  | c :: cs =>
    if c = '=' then
      if 2 ≤ r.filled then
        if 4 ≤ r.filled + r.pads + 1 then if cs.isEmpty then some r.bytes.reverse else none
        else Reader.run { r with pads := r.pads + 1, padded := true } cs
      else Reader.run { r with padded := true } cs
    else match sextet? c with
      | none => none
      | some v => if r.padded then none else Reader.run (r.push v) cs

/-- The bytes of a text, if it is well formed. -/
def decode (cs : List Char) : Option (List UInt8) :=
  if cs.head? = some '=' then none else Reader.fresh.run cs

/-- The padded text of bytes. -/
def encode : List UInt8 → List Char
  | [] => []
  | [a] => [letter (a.toNat / 4), letter (a.toNat % 4 * 16), '=', '=']
  | [a, b] =>
    [letter (a.toNat / 4), letter (a.toNat % 4 * 16 + b.toNat / 16), letter (b.toNat % 16 * 4), '=']
  | a :: b :: c :: rest =>
    letter (a.toNat / 4) :: letter (a.toNat % 4 * 16 + b.toNat / 16)
      :: letter (b.toNat % 16 * 4 + c.toNat / 64) :: letter (c.toNat % 64) :: encode rest

end Base64

end Shopfloor
