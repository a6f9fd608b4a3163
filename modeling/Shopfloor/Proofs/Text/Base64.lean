import Shopfloor.Proofs.Text.Utf8
import Shopfloor.Text.Base64
/-!
# Reading and Writing Base 64

What was written in base 64 is read back, and nothing outside of ASCII is read.

Four characters carry three bytes, and the reader gives out a byte with every
character but the first of a group. So a reader between two groups takes a whole
group in one go, whatever it has read before, and the text of bytes is read group
by group, as it was written. At the end a group may be open: one byte is carried
by two characters and two marks, two bytes by three characters and one mark.

Reading is not undone by writing. The bits of a last character that complete no
byte are passed over, so there are texts that were never written and are read all
the same.

## Main definitions

* `Base64.Reader.between`: A reader between two groups.

## Theorems

* `Base64.sextet?_letter`: A letter stands for the six bits that it was chosen for.
* `Base64.sextet?_foreign`: The alphabet is in ASCII.
* `Base64.Reader.run_encode`: The groups are read one after the other.
* `Base64.decode_encode`: Reading what was written.
* `Base64.ascii_of_decode`: What is read is in ASCII.
-/

namespace Shopfloor

namespace Base64

/-- A letter stands for the six bits that it was chosen for. -/
theorem sextet?_letter : ∀ v < 64, sextet? (letter v) = some v := by decide +kernel

/-- No letter is the padding mark. -/
theorem letter_ne_pad : ∀ v < 64, letter v ≠ '=' := by decide +kernel

/-- No character outside of ASCII is in the alphabet. -/
theorem sextet?_foreign {c : Char} (h : 128 ≤ c.toNat) : sextet? c = none := by
  have hrange : ∀ a b, b < 128 → ¬ (decide (a ≤ c.toNat) && decide (c.toNat ≤ b)) = true := by
    intro a b hb
    rw [Bool.and_eq_true, decide_eq_true_eq, decide_eq_true_eq]
    omega
  have hne : ∀ d : Char, d.toNat < 128 → c ≠ d := by
    rintro d hd rfl
    omega
  unfold sextet?
  dsimp only
  rw [if_neg (hrange 65 90 (by decide)), if_neg (hrange 97 122 (by decide)),
    if_neg (hrange 48 57 (by decide)), if_neg (hne '+' (by decide)), if_neg (hne '/' (by decide))]

namespace Reader

/-- A reader between two groups, with no padding mark before it. -/
def between (bytes : List UInt8) : Reader := ⟨bytes, 0, 0, 0, false⟩

/-- A letter goes into the open group. -/
theorem run_letter {r : Reader} (hr : r.padded = false) {v : Nat} (hv : v < 64) (cs : List Char) :
    r.run (letter v :: cs) = (r.push v).run cs := by
  rw [run, if_neg (letter_ne_pad v hv), sextet?_letter v hv]
  dsimp only
  rw [hr, if_neg Bool.false_ne_true]

variable (bytes : List UInt8) (a b c : UInt8)

/-- The first two letters of a group carry a byte and some bits of the next one. -/
theorem push_two {v : Nat} (hv : v < 16) :
    ((between bytes).push (a.toNat / 4)).push (a.toNat % 4 * 16 + v) =
      ⟨a :: bytes, 2, v, 0, false⟩ := by
  have hbyte : a.toNat / 4 * 4 + (a.toNat % 4 * 16 + v) / 16 = a.toNat := by omega
  have hbits : (a.toNat % 4 * 16 + v) % 16 = v := by omega
  simp only [between, push, hbyte, hbits, Utf8.toUInt8_toNat]

/-- The third letter of a group carries the rest of a byte and some bits of the next one. -/
theorem push_third {v : Nat} (hv : v < 4) :
    (⟨bytes, 2, b.toNat / 16, 0, false⟩ : Reader).push (b.toNat % 16 * 4 + v) =
      ⟨b :: bytes, 3, v, 0, false⟩ := by
  have hbyte : b.toNat / 16 * 16 + (b.toNat % 16 * 4 + v) / 4 = b.toNat := by omega
  have hbits : (b.toNat % 16 * 4 + v) % 4 = v := by omega
  simp only [push, hbyte, hbits, Utf8.toUInt8_toNat]

/-- The fourth letter of a group carries the rest of a byte, and the group is complete. -/
theorem push_fourth :
    (⟨bytes, 3, c.toNat / 64, 0, false⟩ : Reader).push (c.toNat % 64) = between (c :: bytes) := by
  have hbyte : c.toNat / 64 * 64 + c.toNat % 64 = c.toNat := by omega
  simp only [between, push, hbyte, Utf8.toUInt8_toNat]

/-- What was written is read behind whatever was read before. -/
theorem run_encode (bs : List UInt8) (bytes : List UInt8) :
    (between bytes).run (encode bs) = some (bytes.reverse ++ bs) := by
  induction bs using encode.induct generalizing bytes with
  | case1 =>
      rw [List.append_nil]
      rfl
  | case2 a =>
      have ha := a.toNat_lt
      have hpush := push_two bytes a (show 0 < 16 by decide)
      rw [Nat.add_zero] at hpush
      rw [encode, run_letter rfl (by omega), run_letter rfl (by omega), hpush, ← List.reverse_cons]
      rfl
  | case3 a b =>
      have ha := a.toNat_lt
      have hb := b.toNat_lt
      have hpush := push_third (a :: bytes) b (show 0 < 4 by decide)
      rw [Nat.add_zero] at hpush
      rw [encode, run_letter rfl (by omega), run_letter rfl (by omega), push_two bytes a (by omega),
        run_letter rfl (by omega), hpush, List.append_cons, ← List.reverse_cons,
        ← List.reverse_cons]
      rfl
  | case4 a b c rest ih =>
      have ha := a.toNat_lt
      have hb := b.toNat_lt
      have hc := c.toNat_lt
      rw [encode, run_letter rfl (by omega), run_letter rfl (by omega), push_two bytes a (by omega),
        run_letter rfl (by omega), push_third _ b (by omega), run_letter rfl (by omega),
        push_fourth, ih]
      simp only [List.reverse_cons, List.append_assoc, List.cons_append, List.nil_append]

/-- A reader that comes to an end has met nothing outside of ASCII. -/
theorem ascii_of_run {r : Reader} {cs : List Char} {bs : List UInt8} (h : r.run cs = some bs) :
    ∀ c ∈ cs, c.toNat < 128 := by
  have hpad : '='.toNat < 128 := by decide
  fun_induction Reader.run r cs with
  | case1 => exact fun c hc => absurd hc List.not_mem_nil
  | case3 r cs hfilled hpads hempty =>
      rw [List.isEmpty_iff.1 hempty]
      exact List.forall_mem_singleton.2 hpad
  | case5 r cs hfilled hpads ih => exact List.forall_mem_cons.2 ⟨hpad, ih h⟩
  | case6 r cs hfilled ih => exact List.forall_mem_cons.2 ⟨hpad, ih h⟩
  | case9 r c cs hc v hv hpadded ih =>
      refine List.forall_mem_cons.2 ⟨Nat.lt_of_not_le fun hforeign => ?_, ih h⟩
      rw [sextet?_foreign hforeign] at hv
      cases hv
  | case2 | case4 | case7 | case8 => cases h

end Reader

/-- Reading what was written. -/
theorem decode_encode (bs : List UInt8) : decode (encode bs) = some bs := by
  have hpad : ¬ (encode bs).head? = some '=' := by
    intro h
    fun_cases encode bs with
    | case1 => cases h
    | _ a =>
        have ha := a.toNat_lt
        exact letter_ne_pad (a.toNat / 4) (by omega) (Option.some.inj h)
  unfold decode
  rw [if_neg hpad]
  exact Reader.run_encode bs []

/-- What is read is in ASCII. -/
theorem ascii_of_decode {cs : List Char} {bs : List UInt8} (h : decode cs = some bs) :
    ∀ c ∈ cs, c.toNat < 128 := by
  unfold decode at h
  split at h
  · cases h
  · exact Reader.ascii_of_run h

end Base64

end Shopfloor
