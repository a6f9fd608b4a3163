import Shopfloor.Proofs.Text.Utf8
import Shopfloor.Text.Percent
/-!
# Reading Percent Encoding

However a text was percent-encoded, it can be read back.

There is more than one encoding of a text, since a byte may be written by its
number even where its character could stand for itself. `Writes` is any of them:
a character other than the percent sign writes its own bytes, and two
hexadecimal digits behind a percent sign write one. A percent sign that does not
begin a number is not among them, though the reader would let it pass.

The usual encoding, `encode`, leaves letters, digits and a few signs as they are
and writes every other byte by its number. So it has none of the signs that mean
something in a path.

## Main definitions

* `Percent.Writes`: Characters that write bytes.
* `Percent.octetChars`: A byte written by its number.

## Theorems

* `Utf8.decodeLossy_encode`: Nothing is lost of what was written.
* `Writes.bytes_eq`, `Writes.decode_eq`: Reading what was written.
* `writes_encode`, `decode_encode`: The usual encoding writes a text, which is read back.
* `mem_encode`: The characters that it is made of.
-/

namespace Shopfloor

namespace Utf8

/-- A reader that finds no flaw writes no mark. -/
theorem Reader.foldl_acceptLossy {r r' : Reader} {bs : List UInt8} (h : r.acceptAll bs = .ok r') :
    bs.foldl Reader.acceptLossy r = r' := by
  induction bs generalizing r with
  | nil =>
      cases h
      rfl
  | cons b bs ih =>
      rw [acceptAll] at h
      cases hb : r.accept b with
      | error flaw =>
          rw [hb] at h
          cases h
      | ok next =>
          rw [hb] at h
          have hlossy : r.acceptLossy b = next := by
            unfold acceptLossy
            rw [hb]
          rw [List.foldl_cons, hlossy]
          exact ih h

/-- Nothing is lost of what was written. -/
theorem decodeLossy_encode (cs : List Char) : decodeLossy (encode cs) = cs := by
  rcases Reader.acceptAll_encode (r := .fresh) rfl cs with ⟨r, hall, hw, hchars⟩
  unfold decodeLossy
  rw [Reader.foldl_acceptLossy hall]
  dsimp only
  rw [if_pos hw, hchars]
  change (cs.reverse ++ []).reverse = cs
  rw [List.append_nil, List.reverse_reverse]

end Utf8

namespace Percent

/-- Characters that write bytes: any character but the percent sign writes its own, and digits
    behind a percent sign write one. -/
inductive Writes : List Char → List UInt8 → Prop
  | nil : Writes [] []
  | char {c : Char} {cs : List Char} {bs : List UInt8} (h : c ≠ '%') (hcs : Writes cs bs) :
    Writes (c :: cs) (Utf8.encodeChar c ++ bs)
  | octet {a b : Char} {o : UInt8} {cs : List Char} {bs : List UInt8} (h : octet? a b = some o)
    (hcs : Writes cs bs) : Writes ('%' :: a :: b :: cs) (o :: bs)

theorem Writes.append {cs ds : List Char} {bs es : List UInt8} (hcs : Writes cs bs)
    (hds : Writes ds es) : Writes (cs ++ ds) (bs ++ es) := by
  induction hcs with
  | nil => exact hds
  | char h _ ih =>
      rw [List.append_assoc]
      exact .char h ih
  | octet h _ ih => exact .octet h ih

/-- Without a percent sign, characters write themselves. -/
theorem writes_self {cs : List Char} (h : '%' ∉ cs) : Writes cs (Utf8.encode cs) := by
  induction cs with
  | nil => exact .nil
  | cons c cs ih =>
      rw [List.mem_cons, not_or] at h
      exact .char (Ne.symm h.1) (ih h.2)

/-- A character that is no percent sign stands for itself. -/
theorem bytes_cons {c : Char} (h : c ≠ '%') (cs : List Char) :
    bytes (c :: cs) = Utf8.encodeChar c ++ bytes cs := by
  rw [bytes]
  intro a b ds hc
  exact absurd hc h

/-- What was written is read. -/
theorem Writes.bytes_eq {cs : List Char} {bs : List UInt8} (h : Writes cs bs) : bytes cs = bs := by
  induction h with
  | nil => rfl
  | char hc _ ih => rw [bytes_cons hc, ih]
  | octet ho _ ih =>
      rw [bytes, ho]
      exact congrArg _ ih

/-- A text is read back from any way to write its bytes. -/
theorem Writes.decode_eq {s t : String} (h : Writes s.toList (Utf8.encode t.toList)) :
    decode s = t := by
  unfold decode
  rw [h.bytes_eq, Utf8.decodeLossy_encode, String.ofList_toList]

/-- A hexadecimal digit has the value that it was written for. -/
theorem hexValue?_hexDigit {n : Nat} (h : n < 16) : hexValue? (hexDigit n) = some n := by
  have hall : ∀ m : Fin 16, hexValue? (hexDigit m.val) = some m.val := by decide
  exact hall ⟨n, h⟩

/-- The two digits of a byte write it. -/
theorem octet?_hexDigit (b : UInt8) :
    octet? (hexDigit (b.toNat / 16)) (hexDigit (b.toNat % 16)) = some b := by
  have hb : b.toNat < 256 := b.toNat_lt
  have hvalue : b.toNat / 16 * 16 + b.toNat % 16 = b.toNat := by omega
  unfold octet?
  rw [hexValue?_hexDigit (by omega), hexValue?_hexDigit (by omega)]
  dsimp only
  rw [hvalue, Utf8.toUInt8_toNat]

/-- A hexadecimal digit is a capital letter or a decimal digit. -/
theorem hexDigit_range {n : Nat} (h : n < 16) :
    48 ≤ (hexDigit n).toNat ∧ (hexDigit n).toNat ≤ 57 ∨
      65 ≤ (hexDigit n).toNat ∧ (hexDigit n).toNat ≤ 70 := by
  have hall : ∀ m : Fin 16, 48 ≤ (hexDigit m.val).toNat ∧ (hexDigit m.val).toNat ≤ 57 ∨
      65 ≤ (hexDigit m.val).toNat ∧ (hexDigit m.val).toNat ≤ 70 := by decide
  exact hall ⟨n, h⟩

/-- The characters that write one byte by its number. -/
def octetChars (b : UInt8) : List Char := ['%', hexDigit (b.toNat / 16), hexDigit (b.toNat % 16)]

/-- A number is made of a percent sign and digits. -/
theorem mem_octetChars {c : Char} {b : UInt8} (h : c ∈ octetChars b) :
    c = '%' ∨ 48 ≤ c.toNat ∧ c.toNat ≤ 57 ∨ 65 ≤ c.toNat ∧ c.toNat ≤ 70 := by
  have hb : b.toNat < 256 := b.toNat_lt
  unfold octetChars at h
  rw [List.mem_cons, List.mem_cons, List.mem_singleton] at h
  rcases h with rfl | rfl | rfl
  · exact .inl rfl
  · exact .inr (hexDigit_range (by omega))
  · exact .inr (hexDigit_range (by omega))

/-- The bytes that may stand for themselves are those of letters, digits and a few signs. -/
theorem range_of_isPlain {b : UInt8} (h : isPlain b = true) :
    b.toNat < 128 ∧ b.toNat ≠ 0x25 ∧ b.toNat ≠ 0x2F ∧ b.toNat ≠ 0x3F ∧ b.toNat ≠ 0x23 := by
  unfold isPlain at h
  simp only [Bool.or_eq_true, Bool.and_eq_true, decide_eq_true_eq, beq_iff_eq] at h
  omega

/-- The characters that write one byte in the usual encoding. -/
theorem writes_byte {b : UInt8} {cs : List Char} {bs : List UInt8} (h : Writes cs bs) :
    Writes ((if isPlain b then [Char.ofNat b.toNat] else octetChars b) ++ cs) (b :: bs) := by
  by_cases hb : isPlain b = true
  · have hrange := range_of_isPlain hb
    have hnat : (Char.ofNat b.toNat).toNat = b.toNat := Utf8.toNat_ofNat (.inl (by omega))
    have hsign : Char.ofNat b.toNat ≠ '%' := by
      intro hc
      rw [hc] at hnat
      exact hrange.2.1 hnat.symm
    have hself : Utf8.encodeChar (Char.ofNat b.toNat) = [b] := by
      unfold Utf8.encodeChar
      dsimp only
      rw [hnat, if_pos hrange.1, Utf8.toUInt8_toNat]
    have hchar := Writes.char hsign h
    rw [hself] at hchar
    rw [if_pos hb]
    exact hchar
  · rw [if_neg hb]
    exact .octet (octet?_hexDigit b) h

theorem writes_encode (s : String) : Writes (encode s).toList (Utf8.encode s.toList) := by
  unfold encode
  rw [String.toList_ofList]
  induction Utf8.encode s.toList with
  | nil => exact .nil
  | cons b bs ih =>
      rw [List.flatMap_cons]
      exact writes_byte ih

theorem decode_encode (s : String) : decode (encode s) = s := (writes_encode s).decode_eq

/-- The usual encoding has none of the signs that mean something in a path. -/
theorem mem_encode {c : Char} {s : String} (h : c ∈ (encode s).toList) :
    c ≠ '/' ∧ c ≠ '?' ∧ c ≠ '#' := by
  have hnat : c.toNat ≠ 0x2F ∧ c.toNat ≠ 0x3F ∧ c.toNat ≠ 0x23 := by
    unfold encode at h
    rw [String.toList_ofList, List.mem_flatMap] at h
    rcases h with ⟨b, -, hc⟩
    by_cases hb : isPlain b = true
    · have hrange := range_of_isPlain hb
      rw [if_pos hb, List.mem_singleton] at hc
      rw [hc, Utf8.toNat_ofNat (.inl (by omega))]
      exact hrange.2.2
    · rw [if_neg hb] at hc
      rcases mem_octetChars hc with rfl | hdigit
      · decide
      · omega
  refine ⟨?_, ?_, ?_⟩ <;> rintro rfl
  · exact hnat.1 rfl
  · exact hnat.2.1 rfl
  · exact hnat.2.2 rfl

end Percent

end Shopfloor
