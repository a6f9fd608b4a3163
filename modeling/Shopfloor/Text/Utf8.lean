/-!
# UTF-8

Text from bytes and bytes from text.

Reading is one pass over the bytes. The reader holds what it has decoded and,
inside a character, how many continuation bytes are still wanted and between
which bounds the next one must lie; the bounds of the byte after the lead are
what keeps out overlong forms, surrogates and numbers beyond the last code
point. Nothing is looked up twice, so a text may arrive in pages: turning the
page moves an unfinished character to the front of the next one.

A flaw is reported with the place where its character began. Places count
from the front of the page that is being read, carried bytes included. At the
end of the text the page is turned once more, so a character that the end cuts
off is always found at place zero. Two bytes that begin a surrogate at the end
of a page pass for an unfinished character and are carried along before they
are found wrong, at place zero as well.

## Main definitions

* `Utf8.Flaw`: What can be wrong with bytes.
* `Utf8.Reader`, `Utf8.Reader.accept`: Reading byte by byte.
* `Utf8.decode`: The text of bytes that are in one piece.
* `Utf8.decodePages`: The text of bytes that are read in pages.
* `Utf8.decodeLossy`: The text of bytes with a mark in place of each flaw.
* `Utf8.encode`: The bytes of a text.
-/

namespace Shopfloor

namespace Utf8

/-- What can be wrong with bytes. -/
inductive Flaw
  /-- No character starts with this byte. -/
  | badStart
  /-- The character is broken off by a byte that does not continue it. -/
  | badContinuation
  /-- The text ends inside the character. -/
  | cutOff
deriving DecidableEq, Repr

/-- The words for a flaw. -/
def Flaw.reason : Flaw → String
  | .badStart => "invalid start byte"
  | .badContinuation => "invalid continuation byte"
  | .cutOff => "unexpected end of data"

/-- A reader between two bytes. -/
structure Reader where
  /-- The characters read, the last one first. -/
  chars : List Char
  /-- The continuation bytes that the current character still wants. -/
  wanted : Nat
  /-- The bits of the current character. -/
  value : Nat
  /-- The least byte that may come next inside the character. -/
  low : Nat
  /-- The greatest byte that may come next inside the character. -/
  high : Nat
  /-- Where the current character began. -/
  start : Nat
  /-- Where the next byte stands. -/
  place : Nat
deriving DecidableEq, Repr

/-- A reader before the first byte. -/
def Reader.fresh : Reader := ⟨[], 0, 0, 0x80, 0xBF, 0, 0⟩

/-- Begins a character that wants `wanted` further bytes, the first within bounds. -/
def Reader.begin (r : Reader) (wanted value low high : Nat) : Reader :=
  { r with wanted, value, low, high, start := r.place, place := r.place + 1 }

/-- Reads a byte where a character starts. -/
def Reader.lead (r : Reader) (b : UInt8) : Except Flaw Reader :=
  let n := b.toNat
  if n < 0x80 then
    .ok { r with chars := Char.ofNat n :: r.chars, start := r.place, place := r.place + 1 }
  else if n < 0xC2 then .error .badStart
  else if n < 0xE0 then .ok (r.begin 1 (n - 0xC0) 0x80 0xBF)
  else if n < 0xF0 then
    .ok (r.begin 2 (n - 0xE0) (if n = 0xE0 then 0xA0 else 0x80) (if n = 0xED then 0x9F else 0xBF))
  else if n < 0xF5 then
    .ok (r.begin 3 (n - 0xF0) (if n = 0xF0 then 0x90 else 0x80) (if n = 0xF4 then 0x8F else 0xBF))
  else .error .badStart

/-- Reads a byte inside a character. -/
def Reader.resume (r : Reader) (b : UInt8) : Except Flaw Reader :=
  let n := b.toNat
  if r.low ≤ n ∧ n ≤ r.high then
    let value := r.value * 64 + (n - 0x80)
    .ok { r with
      chars := if r.wanted = 1 then Char.ofNat value :: r.chars else r.chars
      wanted := r.wanted - 1, value, low := 0x80, high := 0xBF, place := r.place + 1 }
  else .error .badContinuation

/-- Reads one byte. -/
def Reader.accept (r : Reader) (b : UInt8) : Except Flaw Reader :=
  if r.wanted = 0 then r.lead b else r.resume b

/-- Where a flaw found at the next byte began. -/
def Reader.flawPlace (r : Reader) : Nat := if r.wanted = 0 then r.place else r.start

/-- Goes on to the next page, taking an unfinished character along. -/
def Reader.turnPage (r : Reader) : Reader :=
  if r.wanted = 0 then { r with start := 0, place := 0 }
  else { r with start := 0, place := r.place - r.start }

/-- The text that was read, unless it ends inside a character. -/
def Reader.finish (r : Reader) : Except (Flaw × Nat) (List Char) :=
  if r.wanted = 0 then .ok r.chars.reverse else .error (.cutOff, r.start)

/-- Reads bytes that stand on one page. -/
def Reader.acceptAll (r : Reader) : List UInt8 → Except (Flaw × Nat) Reader
  | [] => .ok r
  | b :: bs =>
    match r.accept b with
    | .ok r' => r'.acceptAll bs
    | .error flaw => .error (flaw, r.flawPlace)

/-- The text of bytes that are in one piece, or the first flaw and where it began. -/
def decode (bs : List UInt8) : Except (Flaw × Nat) (List Char) :=
  (Reader.fresh.acceptAll bs).bind Reader.finish

/-- Whether a byte would go on to make a surrogate of the character that was begun. -/
def Reader.meetsSurrogate (r : Reader) (b : UInt8) : Bool :=
  r.wanted == 2 && r.high == 0x9F && 0xA0 ≤ b.toNat && b.toNat ≤ 0xBF

/-- Reads bytes page by page; `left` bytes of the current page are still to come. -/
def Reader.acceptPages (page : Nat) : Nat → Reader → List UInt8 → Except (Flaw × Nat) Reader
  | _, r, [] => .ok r.turnPage
  | 0, r, b :: bs =>
    match r.turnPage.accept b with
    | .ok r' => acceptPages page (page - 1) r' bs
    | .error flaw => .error (flaw, r.turnPage.flawPlace)
  | left + 1, r, b :: bs =>
    match r.accept b with
    | .ok r' => acceptPages page left r' bs
    | .error flaw =>
      let isLast := left == 0 || bs.isEmpty
      .error (flaw, if isLast && r.meetsSurrogate b then 0 else r.flawPlace)

/-- The text of bytes that are read in pages of a given size. -/
def decodePages (page : Nat) (bs : List UInt8) : Except (Flaw × Nat) (List Char) :=
  (Reader.acceptPages page page .fresh bs).bind Reader.finish

/-- Reads one byte, writing a mark in place of a flaw. -/
def Reader.acceptLossy (r : Reader) (b : UInt8) : Reader :=
  let mark := Char.ofNat 0xFFFD
  match r.accept b with
  | .ok r' => r'
  | .error _ =>
    let marked := { r with chars := mark :: r.chars, wanted := 0 }
    -- The byte that breaks a character off is read again as the start of one.
    if r.wanted = 0 then marked
    else match marked.lead b with
      | .ok r' => r'
      | .error _ => { marked with chars := mark :: marked.chars }

/-- The text of bytes, with a mark in place of each flaw. -/
def decodeLossy (bs : List UInt8) : List Char :=
  let r := bs.foldl Reader.acceptLossy .fresh
  (if r.wanted = 0 then r.chars else Char.ofNat 0xFFFD :: r.chars).reverse

/-- The bytes of a character. -/
def encodeChar (c : Char) : List UInt8 :=
  let n := c.toNat
  if n < 0x80 then [n.toUInt8]
  else if n < 0x800 then [(0xC0 + n / 64).toUInt8, (0x80 + n % 64).toUInt8]
  else if n < 0x10000 then
    [(0xE0 + n / 4096).toUInt8, (0x80 + n / 64 % 64).toUInt8, (0x80 + n % 64).toUInt8]
  else
    [(0xF0 + n / 262144).toUInt8, (0x80 + n / 4096 % 64).toUInt8, (0x80 + n / 64 % 64).toUInt8,
      (0x80 + n % 64).toUInt8]

/-- The bytes of a text. -/
def encode (cs : List Char) : List UInt8 := cs.flatMap encodeChar

end Utf8

end Shopfloor
