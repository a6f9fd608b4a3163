import Mathlib.Algebra.BigOperators.Group.List.Basic
import Mathlib.Algebra.Order.Ring.Int
import Shopfloor.Proofs.Keyed.Lookup
/-!
# Sums over Keyed Maps

Adding up a number that every value of a map has.

A sum does not depend on the order of arrival, so what an operation on maps does
to it can be said through lookups, like everything else: a write adds what the
new value has and takes away what the old one had. `perm_erase` is the reason.
It puts one entry in front of all others, and after that only this entry has to
be looked at.

## Main definitions

* `Keyed.total`: The sum of a number over all values.

## Theorems

* `perm_erase`: One entry and all others.
* `total_insert_new`, `total_insert`, `total_erase`, `total_adjust`: What operations add.
* `total_mapValues_congr`: Changes in place that agree on the number.
-/

namespace Shopfloor

namespace Keyed

variable {α β : Type}

/-- The sum of a number over all values. -/
def total (m : Keyed α) (f : α → Int) : Int := (m.entries.map fun e => f e.2).sum

theorem perm_filter_ne (l : List (String × α)) (hl : (l.map Prod.fst).Nodup) {k : String} {v : α}
    (h : l.lookup k = some v) : l.Perm ((k, v) :: l.filter fun e => e.1 != k) := by
  -- The induction goes down to the entry of the key; no entry behind it has the key.
  induction l with
  | nil => exact absurd h (by simp only [List.lookup_nil, reduceCtorEq, not_false_eq_true])
  | cons e l ih =>
      rcases e with ⟨k', v'⟩
      rw [List.map_cons, List.nodup_cons] at hl
      by_cases hk : k = k'
      · -- The entry stands in front, and no other has its key.
        subst hk
        rw [List.lookup_cons, beq_self_eq_true] at h
        cases h
        have hrest : (l.filter fun e => e.1 != k) = l := by
          refine List.filter_eq_self.2 fun e he => bne_iff_ne.2 fun hek => ?_
          exact hl.1 (List.mem_map.2 ⟨e, he, hek⟩)
        rw [List.filter_cons_of_neg (by simp), hrest]
      · have hb : (k == k') = false := beq_eq_false_iff_ne.2 hk
        rw [List.lookup_cons, hb] at h
        have hkeep : (k' != k) = true := bne_iff_ne.2 fun he => hk he.symm
        have hfilter : (((k', v') :: l).filter fun e => e.1 != k) =
            (k', v') :: l.filter fun e => e.1 != k := List.filter_cons_of_pos hkeep
        rw [hfilter]
        exact ((ih hl.2 h).cons (k', v')).trans (List.Perm.swap _ _ _)

/-- The entries are one of them and all others. -/
theorem perm_erase (m : Keyed α) {k : String} {v : α} (h : m.get? k = some v) :
    m.entries.Perm ((k, v) :: (m.erase k).entries) :=
  perm_filter_ne m.entries m.nodup h

theorem erase_adjust (m : Keyed α) (k : String) (g : α → α) :
    (m.adjust k g).erase k = m.erase k := by
  refine ext_entries ?_
  change (List.map _ m.entries).filter _ = m.entries.filter _
  rw [List.filter_map]
  have hid : ∀ e ∈ m.entries.filter fun e => e.1 != k,
      (e.1, if e.1 = k then g e.2 else e.2) = id e := by
    rintro ⟨k', v⟩ he
    have hne : k' ≠ k := bne_iff_ne.1 (List.mem_filter.1 he).2
    rw [if_neg hne]
    rfl
  exact (List.map_congr_left hid).trans (List.map_id _)

theorem total_eq_add_erase (m : Keyed α) {k : String} {v : α} (h : m.get? k = some v)
    (f : α → Int) : m.total f = f v + (m.erase k).total f := by
  have hsum := ((m.perm_erase h).map fun e => f e.2).sum_eq
  rw [List.map_cons, List.sum_cons] at hsum
  exact hsum

/-- A removal takes away what was there. -/
theorem total_erase (m : Keyed α) {k : String} {v : α} (h : m.get? k = some v) (f : α → Int) :
    (m.erase k).total f = m.total f - f v := by
  have hall := m.total_eq_add_erase h f
  omega

/-- A change under one key adds the difference. -/
theorem total_adjust (m : Keyed α) {k : String} {v : α} (h : m.get? k = some v) (g : α → α)
    (f : α → Int) : (m.adjust k g).total f = m.total f + (f (g v) - f v) := by
  have hafter : (m.adjust k g).get? k = some (g v) := by
    rw [get?_adjust, if_pos rfl, h, Option.map_some]
  have hnew := (m.adjust k g).total_eq_add_erase hafter f
  have hold := m.total_eq_add_erase h f
  rw [erase_adjust] at hnew
  omega

/-- A write over a value adds the difference. -/
theorem total_insert (m : Keyed α) {k : String} {w : α} (h : m.get? k = some w) (v : α)
    (f : α → Int) : (m.insert k v).total f = m.total f + (f v - f w) := by
  have hne : ¬ m.get? k = none := by
    rw [h]
    simp only [reduceCtorEq, not_false_eq_true]
  unfold insert
  rw [dif_neg hne]
  exact m.total_adjust h _ f

/-- A write under a new key adds what the value has. -/
theorem total_insert_new (m : Keyed α) {k : String} (h : m.get? k = none) (v : α)
    (f : α → Int) : (m.insert k v).total f = m.total f + f v := by
  unfold insert
  rw [dif_pos h]
  unfold append total
  rw [List.map_append, List.sum_append, List.map_singleton, List.sum_singleton]

/-- Two changes in place have the same sum if they agree, value by value, on the number. -/
theorem total_mapValues_congr {γ : Type} (m : Keyed α) {g : String → α → β} {g' : String → α → γ}
    {f : β → Int} {f' : γ → Int} (h : ∀ k v, m.get? k = some v → f (g k v) = f' (g' k v)) :
    (m.mapValues g).total f = (m.mapValues g').total f' := by
  unfold total mapValues
  rw [List.map_map, List.map_map]
  refine congrArg List.sum (List.map_congr_left ?_)
  rintro ⟨k, v⟩ he
  exact h k v ((mem_entries_iff m k v).1 he)

/-- A change in place that spares the number spares the sum. -/
theorem total_mapValues (m : Keyed α) {g : String → α → α} {f : α → Int}
    (h : ∀ k v, m.get? k = some v → f (g k v) = f v) : (m.mapValues g).total f = m.total f := by
  have hsame : (m.mapValues g).total f = (m.mapValues fun _ v => v).total f :=
    m.total_mapValues_congr h
  rwa [mapValues_eq_self m _ fun k v _ => rfl] at hsame

end Keyed

end Shopfloor
