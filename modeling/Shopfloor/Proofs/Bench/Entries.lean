import Mathlib.Algebra.Order.Ring.Int
import Mathlib.Order.Compare
import Shopfloor.Bench.Method
import Shopfloor.Proofs.Except
/-!
# What Loose Maps and Amounts Show

Lookups in the fields of a record and in the maps that the fields hold.

A map of loose values finds a value by a key that agrees with its own, and keys of
different sorts may agree: a number with truth, a choice that was left open with its
text. So a map may hold several entries that agree with one key, and which of them
is shown is a matter of their order. A text is simpler than that. What agrees with
it is what has this text, and therefore a map that is written and read by texts
shows what was written last, like any other map.

Amounts are whole or binary. As long as no binary one comes in, what is computed
from whole numbers is whole and is compared as they are.

## Main definitions

* `Value.NotBinary`: A value that is no binary number.
* `Value.whole`: A whole number as a value.

## Theorems

* `less_whole`, `isZero_whole`: Whole numbers are compared as amounts.
* `get?_put`: What a field shows after a write.
* `find?_insert_text`, `find?_erase_text`: What a map shows after a change under a text.
* `of_mem_insert`, `of_mem_erase`: What is among the entries after a change.
-/

namespace Shopfloor

namespace Amount

theorem order?_whole (n m : Int) : (whole n).order? (whole m) = some (compare n m) := by
  have hone : ((twoTo 0 : Nat) : Int) = 1 := rfl
  change some (compare (n * (twoTo 0 : Nat)) (m * (twoTo 0 : Nat))) = _
  rw [hone, Int.mul_one, Int.mul_one]

theorem less_whole (n m : Int) : (whole n).less (whole m) = true ↔ n < m := by
  unfold less
  rw [order?_whole, beq_iff_eq, Option.some.injEq, compare_lt_iff_lt]

theorem isZero_whole (n : Int) : (whole n).isZero = true ↔ n = 0 := by
  unfold isZero sameValue
  rw [order?_whole, beq_iff_eq, Option.some.injEq, compare_eq_iff_eq]

end Amount

theorem Mishap.orSenseless_eq_ok_iff {α : Type} {x : Option α} {a : α} :
    orSenseless x = .ok a ↔ x = some a := by
  cases x with
  | none => exact ⟨nofun, nofun⟩
  | some b => exact ⟨fun h => congrArg some (Except.ok.inj h), fun h => congrArg _ h⟩

/-- A value is no binary number. If it is a number at all, it is a whole one. -/
def Value.NotBinary (v : Value) : Prop := ∀ x, v.amount? ≠ some (.binary x)

/-- A whole number as a value. -/
def Value.whole (n : Int) : Value := .atom (.integer n)

theorem Value.NotBinary.amount {v : Value} {a : Amount} (hv : v.NotBinary)
    (h : Bench.amountOf v = .ok a) : ∃ n, a = .whole n := by
  rw [Bench.amountOf, Mishap.orSenseless_eq_ok_iff] at h
  cases a with
  | whole n => exact ⟨n, rfl⟩
  | binary x => exact absurd h (hv x)

theorem Card.get?_put (c : Card) (name other : String) (v : Value) :
    (c.put name v).get? other = if other = name then (c.get? other).map fun _ => v
      else c.get? other := by
  have hput : (c.put name v).fields =
      c.fields.map fun f => (f.1, if f.1 = name then v else f.2) := by
    refine List.map_congr_left fun f _ => ?_
    by_cases hname : f.1 = name
    · rw [if_pos (beq_iff_eq.2 hname), if_pos hname, hname]
    · rw [if_neg (fun h => hname (beq_iff_eq.1 h)), if_neg hname]
  unfold get?
  rw [hput, Keyed.lookup_map_snd c.fields (fun k w => if k = name then v else w)]
  split
  · rfl
  · exact Option.map_id'

/-- A text agrees with what has this text. -/
theorem Atom.agrees_text (p : String) (k : Atom) : (Atom.text p).agrees k = (k.text? == some p) := by
  cases k with
  | text s | standard s _ =>
      change (p == s) = (some s == some p)
      rw [Bool.eq_iff_iff, beq_iff_eq, beq_iff_eq, Option.some.injEq, eq_comm]
  | _ => rfl

namespace Entries

variable {α : Type}

theorem find?_cons (e : Atom × α) (m : Entries α) (p : String) :
    find? (e :: m) (.text p) = if e.1.text? = some p then some e.2 else find? m (.text p) := by
  unfold find?
  rw [List.find?_cons, Atom.agrees_text]
  by_cases h : e.1.text? = some p
  · rw [if_pos h, h, beq_self_eq_true]
    rfl
  · rw [if_neg h, beq_eq_false_iff_ne.2 h]

theorem find?_append (m : Entries α) (e : Atom × α) (p : String) :
    find? (m ++ [e]) (.text p) =
      (find? m (.text p)).or (if e.1.text? = some p then some e.2 else none) := by
  induction m with
  | nil =>
      rw [List.nil_append, find?_cons]
      rfl
  | cons e' m ih =>
      rw [List.cons_append, find?_cons, find?_cons, ih]
      split
      · rfl
      · rfl

theorem find?_map_text (m : Entries α) (p q : String) (v : α) :
    find? (m.map fun e => if (Atom.text p).agrees e.1 then (e.1, v) else e) (.text q) =
      if q = p then (find? m (.text q)).map fun _ => v else find? m (.text q) := by
  induction m with
  | nil => split <;> rfl
  | cons e m ih =>
      rw [List.map_cons, find?_cons, find?_cons, ih, Atom.agrees_text]
      by_cases hp : e.1.text? = some p
      · rw [if_pos (beq_iff_eq.2 hp)]
        by_cases hq : q = p
        · rw [if_pos hq, if_pos hq, hq, if_pos hp, if_pos hp]
          rfl
        · have hne : ¬ e.1.text? = some q := fun h => hq (Option.some.inj (h.symm.trans hp))
          rw [if_neg hq, if_neg hq, if_neg hne, if_neg hne]
      · rw [if_neg (fun h => hp (beq_iff_eq.1 h))]
        by_cases hq : q = p
        · have hne : ¬ e.1.text? = some q := fun h => hp (h.trans (congrArg some hq))
          rw [if_pos hq, if_pos hq, if_neg hne, if_neg hne]
        · rw [if_neg hq, if_neg hq]

theorem find?_insert_text (m : Entries α) (p q : String) (v : α) :
    find? (m.insert (.text p) v) (.text q) = if q = p then some v else find? m (.text q) := by
  unfold insert
  cases hfind : find? m (.text p) with
  | some w =>
      rw [if_pos Option.isSome_some, find?_map_text]
      by_cases hq : q = p
      · rw [if_pos hq, if_pos hq, hq, hfind]
        rfl
      · rw [if_neg hq, if_neg hq]
  | none =>
      rw [if_neg (Option.not_isSome_iff_eq_none.2 rfl), find?_append]
      by_cases hq : q = p
      · rw [if_pos hq, hq, hfind, Option.none_or]
        exact if_pos rfl
      · have hne : ¬ (Atom.text p).text? = some q := fun h => hq (Option.some.inj h).symm
        rw [if_neg hq, if_neg hne, Option.or_none]

theorem find?_erase_text (m : Entries α) (p q : String) :
    find? (m.erase (.text p)) (.text q) = if q = p then none else find? m (.text q) := by
  unfold erase
  induction m with
  | nil => split <;> rfl
  | cons e m ih =>
      rw [List.filter_cons, Atom.agrees_text, find?_cons]
      by_cases hp : e.1.text? = some p
      · rw [hp, beq_self_eq_true, if_neg (by decide), ih]
        by_cases hq : q = p
        · rw [if_pos hq, if_pos hq]
        · have hne : ¬ some p = some q := fun h => hq (Option.some.inj h).symm
          rw [if_neg hq, if_neg hq, if_neg hne]
      · rw [beq_eq_false_iff_ne.2 hp, if_pos (by decide), find?_cons, ih]
        by_cases hq : q = p
        · rw [if_pos hq, if_pos hq, hq, if_neg hp]
        · rw [if_neg hq, if_neg hq]

/-- What is among the entries after one was written was there before, or it is what was written. -/
theorem of_mem_insert {m : Entries α} {k : Atom} {v : α} {e : Atom × α} (h : e ∈ m.insert k v) :
    e.2 = v ∨ e ∈ m := by
  unfold insert at h
  split at h
  · rcases List.mem_map.1 h with ⟨e', he', rfl⟩
    split
    · exact Or.inl rfl
    · exact Or.inr he'
  · rcases List.mem_append.1 h with h | h
    · exact Or.inr h
    · rw [List.mem_singleton.1 h]
      exact Or.inl rfl

theorem of_mem_erase {m : Entries α} {k : Atom} {e : Atom × α} (h : e ∈ m.erase k) : e ∈ m :=
  (List.mem_filter.1 h).1

theorem mem_of_find? {m : Entries α} {k : Atom} {v : α} (h : find? m k = some v) :
    ∃ e ∈ m, e.2 = v := by
  rcases Option.map_eq_some_iff.1 h with ⟨e, he, rfl⟩
  exact ⟨e, List.mem_of_find?_eq_some he, rfl⟩

end Entries

end Shopfloor
