import Shopfloor.Text.Utf8
/-!
# Percent Encoding

Text as it travels inside an address: a byte may be written as a percent sign
and two hexadecimal digits. A percent sign without two digits stands for
itself, and a plus sign is a plus sign. Bytes that are not UTF-8 come out as a
replacement mark.

## Main definitions

* `Percent.bytes`: The bytes that an encoded text stands for.
* `Percent.decode`: The text that it stands for.
* `Percent.encode`: A text with every byte but letters, digits and `_.-~` written by its number.
-/

namespace Shopfloor

namespace Percent

/-- The value of a hexadecimal digit in either case. -/
def hexValue? (c : Char) : Option Nat :=
  let n := c.toNat
  if 48 ≤ n && n ≤ 57 then some (n - 48)
  else if 65 ≤ n && n ≤ 70 then some (n - 55)
  else if 97 ≤ n && n ≤ 102 then some (n - 87)
  else none

/-- The byte that two hexadecimal digits write. -/
def octet? (a b : Char) : Option UInt8 :=
  match hexValue? a, hexValue? b with
  | some x, some y => some (x * 16 + y).toUInt8
  | _, _ => none

/-- The bytes that an encoded text stands for. -/
def bytes : List Char → List UInt8
  | [] => []
  | '%' :: a :: b :: cs =>
    match octet? a b with
    | some o => o :: bytes cs
    | none => Utf8.encodeChar '%' ++ bytes (a :: b :: cs)
  | c :: cs => Utf8.encodeChar c ++ bytes cs

/-- The text that an encoded text stands for. -/
def decode (s : String) : String := String.ofList (Utf8.decodeLossy (bytes s.toList))

/-- Whether a byte may stand for itself. -/
def isPlain (b : UInt8) : Bool :=
  let n := b.toNat
  (48 ≤ n && n ≤ 57) || (65 ≤ n && n ≤ 90) || (97 ≤ n && n ≤ 122) || n == 95 || n == 46 || n == 45
    || n == 126

/-- A hexadecimal digit in its capital form. -/
def hexDigit (n : Nat) : Char := if n < 10 then Char.ofNat (48 + n) else Char.ofNat (55 + n)

/-- A text with every byte that may not stand for itself written by its number. -/
def encode (s : String) : String :=
  String.ofList <| (Utf8.encode s.toList).flatMap fun b =>
    if isPlain b then [Char.ofNat b.toNat]
    else ['%', hexDigit (b.toNat / 16), hexDigit (b.toNat % 16)]

end Percent

end Shopfloor
