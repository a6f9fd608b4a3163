import Shopfloor.Number.Integer
/-!
# Written Integers Are Read Back

A whole number that can be written is read from what was written as the same
number.

The reader takes far more than the writer writes: digits of any script,
underscores, a plus, blanks around the number. None of that occurs in a written
number, which is a minus or nothing and then digits from `'0'` to `'9'`. So the
proof follows the reader along such digits only, and what it collects is what
the library says the digits of a number are.

Reader and writer share one limit, on the digits of a numeral. A number has a
numeral within the limit exactly if it is `writable`.

## Main definitions

* `greatest`: The greatest number that can be written.

## Theorems

* `trimBoth_eq_self`: A text without blanks is not trimmed.
* `takeDigitsFrom_digits`: The reader takes all of a row of digits.
* `ofDigits_toDigits`: The digits of a number make the number.
* `readInt_toString`: What was written is read back.
* `writable_of_readInt`: What was read can be written.
-/

namespace Shopfloor

theorem Text.trimBoth_eq_self {p : Char → Bool} {cs : List Char} (h : ∀ c ∈ cs, p c = false) :
    trimBoth p cs = cs := by
  have hdrop : ∀ l : List Char, (∀ c ∈ l, p c = false) → l.dropWhile p = l := by
    intro l hl
    cases l with
    | nil => rfl
    | cons c l => rw [List.dropWhile_cons, hl c List.mem_cons_self, if_neg nofun]
  have hreverse : ∀ c ∈ cs.reverse, p c = false := fun c hc => h c (List.mem_reverse.1 hc)
  unfold trimBoth
  rw [hdrop cs h, hdrop cs.reverse hreverse, List.reverse_reverse]

namespace Number

/-- The value of a digit from `'0'` to `'9'`. -/
def digitValue (c : Char) : Nat := c.toNat - '0'.toNat

theorem toNat_of_isDigit {c : Char} (h : c.isDigit = true) : 48 ≤ c.toNat ∧ c.toNat ≤ 57 := by
  unfold Char.isDigit at h
  rw [Bool.and_eq_true, decide_eq_true_eq, decide_eq_true_eq] at h
  exact h

theorem digit?_of_isDigit {c : Char} (h : c.isDigit = true) : digit? c = some (digitValue c) := by
  rcases toNat_of_isDigit h with ⟨hlow, hhigh⟩
  have hrow : (decide (48 ≤ c.toNat) && decide (c.toNat ≤ 48 + 9)) = true := by
    rw [decide_eq_true hlow, decide_eq_true hhigh]
    rfl
  -- Its row is the first of all rows.
  have hfind : zeros.find? (fun z => z ≤ c.toNat && c.toNat ≤ z + 9) = some 48 :=
    List.find?_cons_of_pos hrow
  unfold digit?
  rw [hfind]
  rfl

theorem isMargin_of_isDigit {c : Char} (h : c.isDigit = true) : isMargin c = false := by
  rcases toNat_of_isDigit h with ⟨hlow, hhigh⟩
  unfold isMargin Text.isWideBlank
  grind

/-- The reader takes all of a row of digits. -/
theorem takeDigitsFrom_digits {ds : List Char} (hds : ∀ c ∈ ds, c.isDigit = true)
    (taken : List Nat) {due : Bool} (hdue : due = true → ds ≠ []) :
    takeDigitsFrom taken due ds = some (taken.reverse ++ ds.map digitValue, []) := by
  induction ds generalizing taken due with
  | nil =>
      cases due with
      | true => exact absurd rfl (hdue rfl)
      | false =>
          rw [List.map_nil, List.append_nil]
          rfl
  | cons c ds ih =>
      have hrest : ∀ x ∈ ds, x.isDigit = true := fun x hx => hds x (List.mem_cons_of_mem _ hx)
      have hnext : takeDigitsFrom (digitValue c :: taken) false ds =
          some ((digitValue c :: taken).reverse ++ ds.map digitValue, []) := ih hrest _ nofun
      rw [List.reverse_cons, List.append_assoc] at hnext
      unfold takeDigitsFrom
      rw [digit?_of_isDigit (hds c List.mem_cons_self)]
      exact hnext

/-- The digits of a number make the number. -/
theorem ofDigits_toDigits (n : Nat) : ofDigits ((Nat.toDigits 10 n).map digitValue) = n := by
  have hlibrary := @Nat.ofDigitChars_ten_toDigits n
  rw [Nat.ofDigitChars_eq_foldl] at hlibrary
  unfold ofDigits
  rw [List.foldl_map]
  refine Eq.trans (congrArg (fun f => List.foldl f 0 _) ?_) hlibrary
  funext m c
  unfold digitValue
  rw [Nat.mul_comm]

theorem isDigit_of_mem_toDigits (n : Nat) (c : Char) (hc : c ∈ Nat.toDigits 10 n) :
    c.isDigit = true :=
  Nat.isDigit_of_mem_toDigits (by decide) (by decide) hc

theorem takeDigits_toDigits (n : Nat) :
    takeDigits (Nat.toDigits 10 n) = some ((Nat.toDigits 10 n).map digitValue, []) :=
  takeDigitsFrom_digits (isDigit_of_mem_toDigits n) [] fun _ => Nat.toDigits_ne_nil

/-- A row of digits has no sign in front. -/
theorem takeSign_digits {ds : List Char} (hds : ∀ c ∈ ds, c.isDigit = true) :
    takeSign ds = (false, ds) := by
  unfold takeSign
  split
  · exact absurd (hds '+' List.mem_cons_self) (by decide)
  · exact absurd (hds '-' List.mem_cons_self) (by decide)
  · rfl

/-- A number below a power of ten has no more digits than the power has zeros. -/
theorem length_toDigits_le {n k : Nat} (hk : 0 < k) (h : n < tenTo k) :
    (Nat.toDigits 10 n).length ≤ k :=
  (Nat.length_toDigits_le_iff (by decide) hk).2 h

/-- What is read from the digits of a number behind a sign. -/
theorem readInt_of_digits {s : String} (negative : Bool) {n : Nat}
    (hsign : takeSign (stripMargin s.toList) = (negative, Nat.toDigits 10 n))
    (hn : n < tenTo digitLimit) :
    readInt s = .ok (if negative then -(n : Int) else n) := by
  have hlength : ¬ digitLimit < ((Nat.toDigits 10 n).map digitValue).length := by
    rw [List.length_map, Nat.not_lt]
    exact length_toDigits_le (by decide) hn
  unfold readInt
  rw [hsign]
  dsimp only
  rw [takeDigits_toDigits]
  dsimp only
  rw [if_neg hlength, if_pos List.isEmpty_nil, ofDigits_toDigits]

theorem toList_toString_ofNat (n : Nat) :
    (toString (Int.ofNat n)).toList = Nat.toDigits 10 n := Nat.toList_repr

theorem toList_toString_negSucc (n : Nat) :
    (toString (Int.negSucc n)).toList = '-' :: Nat.toDigits 10 (n + 1) := by
  change ("-" ++ (n + 1).repr).toList = _
  rw [String.toList_append, Nat.toList_repr]
  rfl

/-- A written number is made of digits and of a minus. -/
theorem mem_toString {n : Int} {c : Char} (h : c ∈ (toString n).toList) :
    c = '-' ∨ c.isDigit = true := by
  cases n with
  | ofNat n =>
      rw [toList_toString_ofNat] at h
      exact Or.inr (isDigit_of_mem_toDigits n c h)
  | negSucc n =>
      rw [toList_toString_negSucc, List.mem_cons] at h
      exact h.imp_right (isDigit_of_mem_toDigits (n + 1) c)

/-- A number that can be written is read back from what was written. -/
theorem readInt_toString {n : Int} (h : writable n = true) : readInt (toString n) = .ok n := by
  have hn : n.natAbs < tenTo digitLimit := of_decide_eq_true h
  -- Nothing in a written number is a blank.
  have hmargin : stripMargin (toString n).toList = (toString n).toList := by
    refine Text.trimBoth_eq_self fun c hc => ?_
    rcases mem_toString hc with rfl | hdigit
    · rfl
    · exact isMargin_of_isDigit hdigit
  cases n with
  | ofNat n =>
      refine readInt_of_digits false ?_ hn
      rw [hmargin, toList_toString_ofNat]
      exact takeSign_digits (isDigit_of_mem_toDigits n)
  | negSucc n =>
      refine readInt_of_digits true (n := n + 1) ?_ hn
      rw [hmargin, toList_toString_negSucc]
      rfl

example : readInt (toString (-120 : Int)) = .ok (-120) := readInt_toString (by decide +kernel)

/-! ## What was read can be written -/

theorem digit?_le {c : Char} {d : Nat} (h : digit? c = some d) : d ≤ 9 := by
  unfold digit? at h
  rcases Option.map_eq_some_iff.1 h with ⟨z, hz, rfl⟩
  have hrow := List.find?_some hz
  rw [Bool.and_eq_true, decide_eq_true_eq, decide_eq_true_eq] at hrow
  omega

/-- Everything that is taken as a digit is one. -/
theorem takeDigitsFrom_le {cs : List Char} {taken ds : List Nat} {due : Bool} {rest : List Char}
    (htaken : ∀ d ∈ taken, d ≤ 9) (h : takeDigitsFrom taken due cs = some (ds, rest)) :
    ∀ d ∈ ds, d ≤ 9 := by
  induction cs generalizing taken due with
  | nil =>
      unfold takeDigitsFrom at h
      split at h
      · cases h
      · cases h
        exact fun d hd => htaken d (List.mem_reverse.1 hd)
  | cons c cs ih =>
      unfold takeDigitsFrom at h
      split at h
      · rename_i d hd
        exact ih (List.forall_mem_cons.2 ⟨digit?_le hd, htaken⟩) h
      · split at h
        · cases h
        · split at h
          · exact ih htaken h
          · cases h
            exact fun d hd => htaken d (List.mem_reverse.1 hd)

theorem tenTo_succ (k : Nat) : tenTo (k + 1) = tenTo k * 10 := rfl

/-- Digits write a number that has no more of them. -/
theorem foldl_digits_lt {ds : List Nat} (h : ∀ d ∈ ds, d ≤ 9) (n : Nat) :
    ds.foldl (fun n d => n * 10 + d) n < (n + 1) * tenTo ds.length := by
  induction ds generalizing n with
  | nil =>
      have hone : tenTo ([] : List Nat).length = 1 := rfl
      rw [List.foldl_nil, hone, Nat.mul_one]
      exact Nat.lt_succ_self n
  | cons d ds ih =>
      have hd := h d List.mem_cons_self
      have hrest := ih (fun x hx => h x (List.mem_cons_of_mem _ hx)) (n * 10 + d)
      have hstep : n * 10 + d + 1 ≤ (n + 1) * 10 := by omega
      calc (d :: ds).foldl (fun n d => n * 10 + d) n
          < (n * 10 + d + 1) * tenTo ds.length := hrest
        _ ≤ (n + 1) * 10 * tenTo ds.length := Nat.mul_le_mul_right _ hstep
        _ = (n + 1) * tenTo (d :: ds).length := by
            rw [List.length_cons, tenTo_succ, Nat.mul_assoc, Nat.mul_comm 10]

theorem ofDigits_lt {ds : List Nat} (h : ∀ d ∈ ds, d ≤ 9) {k : Nat} (hk : ds.length ≤ k) :
    ofDigits ds < tenTo k := by
  have hvalue := foldl_digits_lt h 0
  rw [Nat.zero_add, Nat.one_mul] at hvalue
  exact Nat.lt_of_lt_of_le hvalue (Nat.pow_le_pow_right (by decide) hk)

/-- A number that was read can be written. -/
theorem writable_of_readInt {s : String} {n : Int} (h : readInt s = .ok n) : writable n = true := by
  unfold readInt at h
  dsimp only at h
  generalize takeSign (stripMargin s.toList) = body at h
  split at h
  · cases h
  · rename_i ds rest htake
    split at h
    · cases h
    · rename_i hlimit
      split at h
      · have hbound := ofDigits_lt (takeDigitsFrom_le (List.forall_mem_nil _) htake)
          (Nat.le_of_not_lt hlimit)
        cases h
        unfold writable
        refine decide_eq_true ?_
        split
        · rw [Int.natAbs_neg]
          exact hbound
        · exact hbound
      · cases h

theorem writable_neg {n : Int} (h : writable n = true) : writable (-n) = true := by
  unfold writable at h ⊢
  rwa [Int.natAbs_neg]

/-- The greatest number that can be written. -/
def greatest : Int := tenTo digitLimit - 1

theorem writable_one : writable 1 = true := by decide +kernel

theorem writable_greatest : writable greatest = true := by decide +kernel

/-- A number between zero and one that can be written can be written. -/
theorem writable_of_le {m n : Int} (hm : 0 ≤ m) (hle : m ≤ n) (h : writable n = true) :
    writable m = true := by
  have hn : n.natAbs < tenTo digitLimit := of_decide_eq_true h
  exact decide_eq_true (Nat.lt_of_le_of_lt (by omega) hn)

end Number

end Shopfloor
