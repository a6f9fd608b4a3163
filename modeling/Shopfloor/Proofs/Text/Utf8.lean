import Mathlib.Algebra.Group.Nat.Defs
import Mathlib.Tactic.SplitIfs
import Shopfloor.Text.Utf8
/-!
# Reading and Writing UTF-8

The reader takes exactly the bytes of texts, and gives back the text they are
the bytes of, whatever the size of the pages.

A reader inside a character has made a promise: every number whose upper bits
it has read, and whose next six bits it would accept, is a character, and the
bytes of that character are those taken so far followed by the ones still
wanted. A lead byte makes the promise, a continuation byte hands it on with
one byte less, and the last byte redeems it. Overlong forms, surrogates and
numbers beyond the last code point never come up, because no lead byte could
promise anything about them.

## Main definitions

* `Utf8.tail`: The last bytes of a character.
* `Utf8.Reader.Promises`: What a reader knows about the rest of a character.
* `Utf8.Reader.Read`: What a reader has made of the bytes so far.

## Theorems

* `Utf8.encode_eq`: The bytes of a text are those of the library's strings.
* `Utf8.decode_encode`: Reading what was written.
* `Utf8.encode_of_decode`: Only what was written can be read.
* `Utf8.decodePages_eq_ok_iff`: Both together, for bytes in pages.
* `Utf8.exists_flaw_iff`: Bytes that are refused.
-/

namespace Shopfloor

namespace Utf8

/-! ## The bytes of a character -/

/-- The last bytes of the character with a given number. -/
def tail : Nat → Nat → List UInt8
  | 0, _ => []
  | k + 1, n => (0x80 + n / 64 ^ k % 64).toUInt8 :: tail k n

theorem toNat_ofNat {n : Nat} (h : n.isValidChar) : (Char.ofNat n).toNat = n := by
  unfold Char.ofNat
  rw [dif_pos h]
  rfl

theorem toNat_range (c : Char) : c.toNat < 0xD800 ∨ 0xDFFF < c.toNat ∧ c.toNat < 0x110000 := c.valid

/-- The bytes of a character are those of the library's strings. -/
theorem encodeChar_eq (c : Char) : encodeChar c = String.utf8EncodeChar c := by
  have hrange := toNat_range c
  unfold encodeChar String.utf8EncodeChar
  simp only [Char.toNat_val]
  generalize c.toNat = n at hrange
  -- The library bounds what stands in a byte, and the number is in these bounds anyway.
  by_cases h1 : n < 0x80
  · rw [if_pos h1, if_pos (by omega)]
  by_cases h2 : n < 0x800
  · have hlead : 0xC0 + n / 64 = n / 64 % 32 + 192 := by omega
    rw [if_neg h1, if_pos h2, if_neg (by omega), if_pos (by omega), hlead, Nat.add_comm 0x80]
  by_cases h3 : n < 0x10000
  · have hlead : 0xE0 + n / 4096 = n / 4096 % 16 + 224 := by omega
    rw [if_neg h1, if_neg h2, if_pos h3, if_neg (by omega), if_neg (by omega), if_pos (by omega),
      hlead, Nat.add_comm 0x80, Nat.add_comm 0x80]
  · have hlead : 0xF0 + n / 262144 = n / 262144 % 8 + 240 := by omega
    rw [if_neg h1, if_neg h2, if_neg h3, if_neg (by omega), if_neg (by omega), if_neg (by omega),
      hlead, Nat.add_comm 0x80, Nat.add_comm 0x80, Nat.add_comm 0x80]

/-- The bytes of a text are those of the library's strings. -/
theorem encode_eq (cs : List Char) : (encode cs).toByteArray = cs.utf8Encode := by
  have hchar : encodeChar = String.utf8EncodeChar := funext encodeChar_eq
  unfold encode List.utf8Encode
  rw [hchar]

theorem encode_toList (s : String) : (encode s.toList).toByteArray = s.toByteArray := by
  rw [encode_eq, ← String.toByteArray_ofList, String.ofList_toList]

theorem encode_append (cs ds : List Char) : encode (cs ++ ds) = encode cs ++ encode ds :=
  List.flatMap_append

/-- A character is a lead byte and, behind it, the last bytes of its number. -/
theorem encodeChar_shape {n : Nat} (h : n.isValidChar) :
    encodeChar (Char.ofNat n) =
      if n < 0x80 then [n.toUInt8]
      else if n < 0x800 then (0xC0 + n / 64).toUInt8 :: tail 1 n
      else if n < 0x10000 then (0xE0 + n / 64 ^ 2).toUInt8 :: tail 2 n
      else (0xF0 + n / 64 ^ 3).toUInt8 :: tail 3 n := by
  unfold encodeChar
  rw [toNat_ofNat h]
  simp only [tail, Nat.reducePow, Nat.pow_zero, Nat.div_one, Nat.pow_one]

/-! ## Readers that differ in their places -/

/-- A reader without the places that it only needs for its reports. -/
def Reader.core (r : Reader) : Reader := { r with start := 0, place := 0 }

theorem Reader.accept_core {r s : Reader} (h : r.core = s.core) (b : UInt8) :
    (r.accept b).toOption.map core = (s.accept b).toOption.map core := by
  rcases r with ⟨chars, wanted, value, low, high, start, place⟩
  rcases s with ⟨chars', wanted', value', low', high', start', place'⟩
  simp only [core, mk.injEq] at h
  rcases h with ⟨rfl, rfl, rfl, rfl, rfl, -, -⟩
  unfold accept lead resume begin
  dsimp only
  split_ifs <;> rfl

theorem Reader.core_turnPage (r : Reader) : r.turnPage.core = r.core := by
  unfold turnPage
  split_ifs <;> rfl

/-- Pages only show in the places of flaws. -/
theorem Reader.acceptPages_core (page left : Nat) (bs : List UInt8) {r s : Reader}
    (h : r.core = s.core) :
    (acceptPages page left r bs).toOption.map core = (s.acceptAll bs).toOption.map core := by
  induction bs generalizing left r s with
  | nil =>
      cases left with
      | zero => exact congrArg some (r.core_turnPage.trans h)
      | succ left => exact congrArg some (r.core_turnPage.trans h)
  | cons b bs ih =>
      -- Whether the page is turned or not, the byte is read by an alike reader.
      have hread (left' : Nat) (t : Reader) (ht : t.core = s.core)
          (x : Except (Flaw × Nat) Reader)
          (hok : ∀ t', t.accept b = .ok t' → x = acceptPages page left' t' bs)
          (hflaw : ∀ flaw, t.accept b = .error flaw → x.toOption = none) :
          x.toOption.map core = (s.acceptAll (b :: bs)).toOption.map core := by
        have hstep := accept_core ht b
        rw [acceptAll]
        cases hacc : t.accept b with
        | error flaw =>
            rw [hflaw flaw hacc]
            cases hacc' : s.accept b with
            | error flaw' => rfl
            | ok s' =>
                rw [hacc, hacc'] at hstep
                cases hstep
        | ok t' =>
            rw [hok t' hacc]
            cases hacc' : s.accept b with
            | error flaw' =>
                rw [hacc, hacc'] at hstep
                cases hstep
            | ok s' =>
                rw [hacc, hacc'] at hstep
                exact ih left' (Option.some.inj hstep)
      cases left with
      | zero =>
          refine hread (page - 1) r.turnPage (r.core_turnPage.trans h) _ (fun t' ht' => ?_)
            fun flaw ht' => ?_
          · rw [acceptPages, ht']
          · rw [acceptPages, ht']
            rfl
      | succ left =>
          refine hread left r h _ (fun t' ht' => ?_) fun flaw ht' => ?_
          · rw [acceptPages, ht']
          · rw [acceptPages, ht']
            rfl

theorem Reader.finish_core {r s : Reader} (h : r.core = s.core) :
    r.finish.toOption = s.finish.toOption := by
  rcases r with ⟨chars, wanted, value, low, high, start, place⟩
  rcases s with ⟨chars', wanted', value', low', high', start', place'⟩
  simp only [core, mk.injEq] at h
  rcases h with ⟨rfl, rfl, rfl, rfl, rfl, -, -⟩
  unfold finish
  dsimp only
  split_ifs <;> rfl

/-- A text in pages reads like the same text in one piece. -/
theorem decodePages_toOption (page : Nat) (bs : List UInt8) :
    (decodePages page bs).toOption = (decode bs).toOption := by
  have h := Reader.acceptPages_core page page bs (rfl : Reader.fresh.core = _)
  unfold decodePages decode
  cases hpages : Reader.acceptPages page page .fresh bs with
  | error flaw =>
      cases hall : Reader.fresh.acceptAll bs with
      | error flaw' => rfl
      | ok s =>
          rw [hpages, hall] at h
          cases h
  | ok r =>
      cases hall : Reader.fresh.acceptAll bs with
      | error flaw' =>
          rw [hpages, hall] at h
          cases h
      | ok s =>
          rw [hpages, hall] at h
          exact Reader.finish_core (Option.some.inj h)

/-! ## What is read was written -/

/-- What a reader knows about the character it has begun with the bytes `part`: with every next
    byte that it accepts, and every further continuation, they are the bytes of a character. -/
def Reader.Promises (r : Reader) (part : List UInt8) : Prop :=
  match r.wanted with
  | 0 => part = []
  | k + 1 => (0x80 ≤ r.low ∧ r.high ≤ 0xBF) ∧ ∀ n, n / 64 ^ (k + 1) = r.value →
      r.low ≤ 0x80 + n / 64 ^ k % 64 → 0x80 + n / 64 ^ k % 64 ≤ r.high →
      n.isValidChar ∧ encodeChar (Char.ofNat n) = part ++ tail (k + 1) n

/-- What a reader has made of the bytes so far. -/
def Reader.Read (r : Reader) (bs : List UInt8) : Prop :=
  ∃ part, bs = encode r.chars.reverse ++ part ∧ r.Promises part

theorem Reader.read_fresh : Reader.fresh.Read [] := ⟨[], rfl, rfl⟩

/-- A complete character joins the text. -/
theorem encode_reverse_cons (c : Char) (cs : List Char) :
    encode (c :: cs).reverse = encode cs.reverse ++ encodeChar c := by
  rw [List.reverse_cons, encode_append]
  exact congrArg _ (List.append_nil _)

theorem toUInt8_toNat (b : UInt8) : b.toNat.toUInt8 = b := UInt8.ofNat_toNat

/-- Between two characters nothing is left over. -/
theorem Reader.Read.complete {r : Reader} {bs : List UInt8} (hr : r.Read bs) (hw : r.wanted = 0) :
    bs = encode r.chars.reverse := by
  rcases hr with ⟨part, rfl, hpart⟩
  unfold Promises at hpart
  rw [hw] at hpart
  subst hpart
  exact List.append_nil _

/-- Beginning a character makes the promise that its lead byte warrants. -/
theorem Reader.read_begin {r : Reader} {b : UInt8} {bs : List UInt8} {k value low high : Nat}
    (hw : r.wanted = 0) (hr : r.Read bs) (hlow : 0x80 ≤ low) (hhigh : high ≤ 0xBF)
    (h : ∀ n, n / 64 ^ (k + 1) = value → low ≤ 0x80 + n / 64 ^ k % 64 →
      0x80 + n / 64 ^ k % 64 ≤ high →
      n.isValidChar ∧ encodeChar (Char.ofNat n) = b :: tail (k + 1) n) :
    (r.begin (k + 1) value low high).Read (bs ++ [b]) :=
  ⟨[b], congrArg (· ++ [b]) (hr.complete hw), ⟨hlow, hhigh⟩, h⟩

/-- A byte that starts a character promises the rest of it, or is one. -/
theorem Reader.read_lead {r r' : Reader} {b : UInt8} {bs : List UInt8} (hw : r.wanted = 0)
    (hr : r.Read bs) (h : r.lead b = .ok r') : r'.Read (bs ++ [b]) := by
  have hb := toUInt8_toNat b
  unfold lead at h
  dsimp only at h
  generalize b.toNat = m at h hb
  by_cases h1 : m < 0x80
  · rw [if_pos h1] at h
    cases h
    refine ⟨[], ?_, ?_⟩
    · rw [hr.complete hw, encode_reverse_cons, encodeChar_shape (.inl (by omega)), if_pos h1, hb,
        List.append_nil]
    · unfold Promises
      rw [hw]
  by_cases h2 : m < 0xC2
  · rw [if_neg h1, if_pos h2] at h
    cases h
  by_cases h3 : m < 0xE0
  · rw [if_neg h1, if_neg h2, if_pos h3] at h
    cases h
    refine read_begin hw hr (Nat.le_refl _) (Nat.le_refl _) fun n hn _ _ => ?_
    have hvalid : n.isValidChar := .inl (by omega)
    have hlead : 0xC0 + n / 64 = m := by omega
    rw [encodeChar_shape hvalid, if_neg (by omega), if_pos (by omega), hlead, hb]
    exact ⟨hvalid, rfl⟩
  by_cases h4 : m < 0xF0
  · rw [if_neg h1, if_neg h2, if_neg h3, if_pos h4] at h
    cases h
    refine read_begin hw hr (by split_ifs <;> decide) (by split_ifs <;> decide)
      fun n hn hlow hhigh => ?_
    -- The bounds of the second byte keep out overlong forms below and surrogates above.
    have hleast : 0x800 ≤ n := by split_ifs at hlow <;> omega
    have hvalid : n.isValidChar := by
      unfold Nat.isValidChar
      split_ifs at hhigh <;> omega
    have hlead : 0xE0 + n / 64 ^ 2 = m := by omega
    rw [encodeChar_shape hvalid, if_neg (by omega), if_neg (by omega), if_pos (by omega), hlead, hb]
    exact ⟨hvalid, rfl⟩
  by_cases h5 : m < 0xF5
  · rw [if_neg h1, if_neg h2, if_neg h3, if_neg h4, if_pos h5] at h
    cases h
    refine read_begin hw hr (by split_ifs <;> decide) (by split_ifs <;> decide)
      fun n hn hlow hhigh => ?_
    -- Here they keep out overlong forms and what lies beyond the last code point.
    have hleast : 0x10000 ≤ n := by split_ifs at hlow <;> omega
    have hvalid : n.isValidChar := by
      unfold Nat.isValidChar
      split_ifs at hhigh <;> omega
    have hlead : 0xF0 + n / 64 ^ 3 = m := by omega
    rw [encodeChar_shape hvalid, if_neg (by omega), if_neg (by omega), if_neg (by omega), hlead, hb]
    exact ⟨hvalid, rfl⟩
  · rw [if_neg h1, if_neg h2, if_neg h3, if_neg h4, if_neg h5] at h
    cases h

/-- A continuation byte hands the promise on, and the last one redeems it. -/
theorem Reader.read_resume {r r' : Reader} {b : UInt8} {bs : List UInt8} {k : Nat}
    (hw : r.wanted = k + 1) (hr : r.Read bs) (h : r.resume b = .ok r') : r'.Read (bs ++ [b]) := by
  rcases hr with ⟨part, rfl, hpart⟩
  unfold Promises at hpart
  rw [hw] at hpart
  rcases hpart with ⟨⟨hlow, hhigh⟩, hpromise⟩
  have hb := toUInt8_toNat b
  unfold resume at h
  dsimp only at h
  generalize b.toNat = m at h hb
  by_cases hin : r.low ≤ m ∧ m ≤ r.high
  case neg =>
    rw [if_neg hin] at h
    cases h
  rw [if_pos hin, hw] at h
  cases h
  -- A number that goes on with this byte has the value of the reader above it.
  have hnext (n : Nat) (hn : n / 64 ^ k = r.value * 64 + (m - 0x80)) :
      n.isValidChar ∧ encodeChar (Char.ofNat n) = part ++ b :: tail k n := by
    have hvalue : n / 64 ^ (k + 1) = r.value := by
      rw [Nat.pow_succ, ← Nat.div_div_eq_div_mul, hn]
      omega
    have hbyte : 0x80 + n / 64 ^ k % 64 = m := by
      rw [hn]
      omega
    have hchar := hpromise n hvalue (by omega) (by omega)
    rw [tail, hbyte, hb] at hchar
    exact hchar
  cases k with
  | zero =>
      have hdone := (hnext _ (Nat.div_one _)).2
      refine ⟨[], ?_, rfl⟩
      dsimp only
      rw [if_pos rfl, encode_reverse_cons, hdone, List.append_nil, List.append_assoc]
      rfl
  | succ k =>
      refine ⟨part ++ [b], ?_, ⟨Nat.le_refl _, Nat.le_refl _⟩, fun n hn _ _ => ?_⟩
      · dsimp only
        rw [if_neg (by omega), List.append_assoc]
      · rcases hnext n hn with ⟨hvalid, hchar⟩
        refine ⟨hvalid, ?_⟩
        rw [hchar, List.append_assoc]
        rfl

/-- One byte is read as part of a text. -/
theorem Reader.read_accept {r r' : Reader} {b : UInt8} {bs : List UInt8} (hr : r.Read bs)
    (h : r.accept b = .ok r') : r'.Read (bs ++ [b]) := by
  unfold accept at h
  split_ifs at h with hw
  · exact read_lead hw hr h
  · exact read_resume (Nat.succ_pred_eq_of_ne_zero hw).symm hr h

theorem Reader.read_acceptAll {r r' : Reader} {bs : List UInt8} (bytes : List UInt8)
    (hr : r.Read bs) (h : r.acceptAll bytes = .ok r') : r'.Read (bs ++ bytes) := by
  induction bytes generalizing r bs with
  | nil =>
      cases h
      rwa [List.append_nil]
  | cons b bytes ih =>
      rw [acceptAll] at h
      cases hb : r.accept b with
      | error flaw =>
          rw [hb] at h
          cases h
      | ok next =>
          rw [hb] at h
          have hread := ih (read_accept hr hb) h
          rwa [List.append_assoc] at hread

/-- Only what was written can be read. -/
theorem encode_of_decode {bs : List UInt8} {cs : List Char} (h : decode bs = .ok cs) :
    bs = encode cs := by
  unfold decode at h
  cases hall : Reader.fresh.acceptAll bs with
  | error flaw =>
      rw [hall] at h
      cases h
  | ok r =>
      rw [hall] at h
      change r.finish = .ok cs at h
      have hread := Reader.read_acceptAll bs Reader.read_fresh hall
      unfold Reader.finish at h
      split_ifs at h with hw
      cases h
      exact hread.complete hw

/-! ## What was written is read -/

/-- A reader takes the first of the bytes that it wants. -/
theorem Reader.accept_tail {r : Reader} {k n : Nat} (hw : r.wanted = k + 1)
    (hvalue : r.value = n / 64 ^ (k + 1)) (hlow : r.low ≤ 0x80 + n / 64 ^ k % 64)
    (hhigh : 0x80 + n / 64 ^ k % 64 ≤ r.high) :
    r.accept (0x80 + n / 64 ^ k % 64).toUInt8 = .ok { r with
      chars := if k = 0 then Char.ofNat (n / 64 ^ k) :: r.chars else r.chars
      wanted := k, value := n / 64 ^ k, low := 0x80, high := 0xBF, place := r.place + 1 } := by
  have hsmall : n / 64 ^ k % 64 < 64 := Nat.mod_lt _ (by decide)
  have hbyte : (0x80 + n / 64 ^ k % 64).toUInt8.toNat = 0x80 + n / 64 ^ k % 64 :=
    UInt8.toNat_ofNat_of_lt' (by change _ < 256; omega)
  have hnext : n / 64 ^ (k + 1) * 64 + (0x80 + n / 64 ^ k % 64 - 0x80) = n / 64 ^ k := by
    rw [Nat.pow_succ, ← Nat.div_div_eq_div_mul]
    omega
  unfold accept resume
  rw [if_neg (by omega)]
  dsimp only
  rw [hbyte, if_pos ⟨hlow, hhigh⟩, hvalue, hnext, hw]
  simp only [Nat.add_eq_right, Nat.add_sub_cancel]

/-- A reader takes the last bytes of a character whose number it has begun. -/
theorem Reader.acceptAll_tail (k n : Nat) (rest : List UInt8) {r : Reader}
    (hw : r.wanted = k + 1) (hvalue : r.value = n / 64 ^ (k + 1))
    (hlow : r.low ≤ 0x80 + n / 64 ^ k % 64) (hhigh : 0x80 + n / 64 ^ k % 64 ≤ r.high) :
    ∃ r' : Reader, r.acceptAll (tail (k + 1) n ++ rest) = r'.acceptAll rest ∧ r'.wanted = 0 ∧
      r'.chars = Char.ofNat n :: r.chars := by
  induction k generalizing r with
  | zero =>
      have hread := accept_tail hw hvalue hlow hhigh
      rw [tail, List.cons_append, acceptAll, hread]
      refine ⟨_, rfl, rfl, ?_⟩
      dsimp only
      rw [if_pos rfl, Nat.pow_zero, Nat.div_one]
  | succ k ih =>
      have hread := accept_tail hw hvalue hlow hhigh
      have hsmall : n / 64 ^ k % 64 < 64 := Nat.mod_lt _ (by decide)
      rcases ih (r := { r with
          chars := if k + 1 = 0 then Char.ofNat (n / 64 ^ (k + 1)) :: r.chars else r.chars
          wanted := k + 1, value := n / 64 ^ (k + 1), low := 0x80, high := 0xBF
          place := r.place + 1 }) rfl rfl (Nat.le_add_right _ _) (by dsimp only; omega)
        with ⟨r', hrest, hw', hchars⟩
      rw [tail, List.cons_append, acceptAll, hread]
      refine ⟨r', hrest, hw', hchars.trans ?_⟩
      dsimp only
      rw [if_neg (Nat.succ_ne_zero k)]

theorem toNat_toUInt8 {b : Nat} (hb : b < 256) : b.toUInt8.toNat = b :=
  UInt8.toNat_ofNat_of_lt' hb

theorem Reader.lead_one (r : Reader) {b : Nat} (hb : b < 0x80) :
    r.lead b.toUInt8 = .ok { r with
      chars := Char.ofNat b :: r.chars, start := r.place, place := r.place + 1 } := by
  unfold lead
  rw [toNat_toUInt8 (by omega)]
  dsimp only
  rw [if_pos hb]

theorem Reader.lead_two (r : Reader) {q : Nat} (hq : 2 ≤ q) (hq' : q < 32) :
    r.lead (0xC0 + q).toUInt8 = .ok (r.begin 1 q 0x80 0xBF) := by
  unfold lead
  rw [toNat_toUInt8 (by omega)]
  dsimp only
  rw [if_neg (by omega), if_neg (by omega), if_pos (by omega), Nat.add_sub_cancel_left]

theorem Reader.lead_three (r : Reader) {q : Nat} (hq : q < 16) :
    r.lead (0xE0 + q).toUInt8 = .ok (r.begin 2 q (if 0xE0 + q = 0xE0 then 0xA0 else 0x80)
      (if 0xE0 + q = 0xED then 0x9F else 0xBF)) := by
  unfold lead
  rw [toNat_toUInt8 (by omega)]
  dsimp only
  rw [if_neg (by omega), if_neg (by omega), if_neg (by omega), if_pos (by omega),
    Nat.add_sub_cancel_left]

theorem Reader.lead_four (r : Reader) {q : Nat} (hq : q < 5) :
    r.lead (0xF0 + q).toUInt8 = .ok (r.begin 3 q (if 0xF0 + q = 0xF0 then 0x90 else 0x80)
      (if 0xF0 + q = 0xF4 then 0x8F else 0xBF)) := by
  unfold lead
  rw [toNat_toUInt8 (by omega)]
  dsimp only
  rw [if_neg (by omega), if_neg (by omega), if_neg (by omega), if_neg (by omega),
    if_pos (by omega), Nat.add_sub_cancel_left]

/-- A reader between two characters takes the bytes of a character. -/
theorem Reader.acceptAll_encodeChar {r : Reader} (hw : r.wanted = 0) (c : Char)
    (rest : List UInt8) :
    ∃ r' : Reader, r.acceptAll (encodeChar c ++ rest) = r'.acceptAll rest ∧ r'.wanted = 0 ∧
      r'.chars = c :: r.chars := by
  have hrange := toNat_range c
  have hshape := encodeChar_shape (n := c.toNat) c.valid
  have hc := c.ofNat_toNat
  generalize c.toNat = n at hrange hshape hc
  rw [hc] at hshape
  -- The lead byte leaves a reader that has begun the number and takes the bytes behind it.
  have hbegin {b : UInt8} {k low high : Nat}
      (hlead : r.lead b = .ok (r.begin (k + 1) (n / 64 ^ (k + 1)) low high))
      (hlow : low ≤ 0x80 + n / 64 ^ k % 64) (hhigh : 0x80 + n / 64 ^ k % 64 ≤ high) :
      ∃ r' : Reader, r.acceptAll (b :: tail (k + 1) n ++ rest) = r'.acceptAll rest ∧
        r'.wanted = 0 ∧ r'.chars = c :: r.chars := by
    rw [List.cons_append, acceptAll, accept, if_pos hw, hlead, ← hc]
    exact acceptAll_tail k n rest rfl rfl hlow hhigh
  rw [hshape]
  by_cases h1 : n < 0x80
  · rw [if_pos h1, List.singleton_append, acceptAll, accept, if_pos hw, lead_one r h1, hc]
    exact ⟨_, rfl, hw, rfl⟩
  by_cases h2 : n < 0x800
  · rw [if_neg h1, if_pos h2]
    exact hbegin (lead_two r (by omega) (by omega)) (by omega) (by omega)
  by_cases h3 : n < 0x10000
  · rw [if_neg h1, if_neg h2, if_pos h3]
    exact hbegin (lead_three r (by omega)) (by split_ifs <;> omega) (by split_ifs <;> omega)
  · rw [if_neg h1, if_neg h2, if_neg h3]
    exact hbegin (lead_four r (by omega)) (by split_ifs <;> omega) (by split_ifs <;> omega)

theorem Reader.acceptAll_encode {r : Reader} (hw : r.wanted = 0) (cs : List Char) :
    ∃ r' : Reader, r.acceptAll (encode cs) = .ok r' ∧ r'.wanted = 0 ∧
      r'.chars = cs.reverse ++ r.chars := by
  induction cs generalizing r with
  | nil => exact ⟨r, rfl, hw, rfl⟩
  | cons c cs ih =>
      rcases acceptAll_encodeChar hw c (encode cs) with ⟨next, hnext, hw', hchars⟩
      rcases ih hw' with ⟨r', hrest, hw'', hchars'⟩
      refine ⟨r', hnext.trans hrest, hw'', ?_⟩
      rw [hchars', hchars, List.reverse_cons, List.append_assoc, List.singleton_append]

/-- Reading what was written. -/
theorem decode_encode (cs : List Char) : decode (encode cs) = .ok cs := by
  rcases Reader.acceptAll_encode (r := .fresh) rfl cs with ⟨r, hall, hw, hchars⟩
  unfold decode
  rw [hall]
  change r.finish = _
  unfold Reader.finish
  rw [if_pos hw, hchars]
  change Except.ok (cs.reverse ++ []).reverse = _
  rw [List.append_nil, List.reverse_reverse]

/-! ## Bytes in pages -/

/-- Bytes in pages are read as a text just when they are the bytes of this text. -/
theorem decodePages_eq_ok_iff {page : Nat} {bs : List UInt8} {cs : List Char} :
    decodePages page bs = .ok cs ↔ bs.toByteArray = (String.ofList cs).toByteArray := by
  have hpages : decodePages page bs = .ok cs ↔ decode bs = .ok cs := by
    have h := decodePages_toOption page bs
    cases hp : decodePages page bs with
    | error flaw =>
        cases hd : decode bs with
        | error flaw' => exact ⟨nofun, nofun⟩
        | ok ds =>
            rw [hp, hd] at h
            cases h
    | ok ps =>
        cases hd : decode bs with
        | error flaw' =>
            rw [hp, hd] at h
            cases h
        | ok ds =>
            rw [hp, hd] at h
            cases h
            exact Iff.rfl
  rw [hpages, String.toByteArray_ofList, ← encode_eq, List.toByteArray_inj]
  constructor
  · exact encode_of_decode
  · rintro rfl
    exact decode_encode cs

/-- Bytes in pages have a flaw just when they are not the bytes of any text. -/
theorem exists_flaw_iff {page : Nat} {bs : List UInt8} :
    (∃ flaw, decodePages page bs = .error flaw) ↔ ¬ bs.toByteArray.IsValidUTF8 := by
  constructor
  · rintro ⟨flaw, hflaw⟩ ⟨cs, hcs⟩
    have hok := (@decodePages_eq_ok_iff page bs cs).2 (hcs.trans String.toByteArray_ofList.symm)
    rw [hflaw] at hok
    cases hok
  · intro hbad
    cases hp : decodePages page bs with
    | error flaw => exact ⟨flaw, rfl⟩
    | ok cs =>
        have hcs := decodePages_eq_ok_iff.1 hp
        exact absurd (hcs ▸ (String.ofList cs).isValidUTF8) hbad

end Utf8

end Shopfloor
