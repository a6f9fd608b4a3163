import Shopfloor.Proofs.Keyed.Lookup
/-!
# Writes that Undo Each Other

What comes of two changes of a keyed map under one key, the order of arrival
included.

A value that was there is overwritten in its place, so writing the old one again
gives back the map as it was. A key that was not there went last, where erasing
it leaves no trace. Only the third case loses something: a key that is erased
and comes back goes last wherever it stood, so the map holds what it held in
another order.

## Theorems

* `adjust_eq_self`, `adjust_adjust`: Changes in place.
* `insert_eq_self`, `insert_insert`: A value is written again.
* `erase_insert`: A new key is erased.
* `entries_insert_erase`, `get?_insert_erase`: An erased key comes back.
-/

namespace Shopfloor

namespace Keyed

variable {α : Type} (m : Keyed α) {k : String}

/-- A change in place that changes no value changes nothing. -/
theorem adjust_eq_self {f : α → α} (h : ∀ v, m.get? k = some v → f v = v) : m.adjust k f = m := by
  refine mapValues_eq_self m _ fun k' v hv => ?_
  by_cases hk : k' = k
  · rw [if_pos hk, h v (hk ▸ hv)]
  · rw [if_neg hk]

theorem adjust_adjust (k : String) (f g : α → α) :
    (m.adjust k f).adjust k g = m.adjust k fun v => g (f v) := by
  unfold adjust
  rw [mapValues_mapValues]
  refine mapValues_congr m fun k' v _ => ?_
  by_cases hk : k' = k
  · rw [if_pos hk, if_pos hk, if_pos hk]
  · rw [if_neg hk, if_neg hk, if_neg hk]

/-- A key that is present keeps its place when it is written. -/
theorem insert_eq_adjust {v : α} (h : m.get? k = some v) (w : α) :
    m.insert k w = m.adjust k fun _ => w := by
  have hthere : ¬ m.get? k = none := by
    rw [h]
    exact Option.some_ne_none v
  exact dif_neg hthere

/-- A new key goes last. -/
theorem entries_insert (h : m.get? k = none) (v : α) :
    (m.insert k v).entries = m.entries ++ [(k, v)] := by
  unfold insert
  rw [dif_pos h]
  rfl

theorem insert_eq_self {v : α} (h : m.get? k = some v) : m.insert k v = m := by
  rw [insert_eq_adjust m h]
  refine adjust_eq_self m fun w hw => ?_
  rw [h, Option.some.injEq] at hw
  exact hw

/-- Of two values under one key the second counts, and the place is that of the first. -/
theorem insert_insert (k : String) (v w : α) : (m.insert k v).insert k w = m.insert k w := by
  rw [insert_eq_adjust _ (get?_insert_self m k v)]
  cases hk : m.get? k with
  | some u => rw [insert_eq_adjust m hk, insert_eq_adjust m hk, adjust_adjust]
  | none =>
      -- No entry but the last one is under the key.
      have hothers : ∀ e ∈ m.entries, (e.1, if e.1 = k then w else e.2) = id e := by
        rintro ⟨k', u⟩ he
        have hne : k' ≠ k := by
          rintro rfl
          rw [(mem_entries_iff m k' u).1 he] at hk
          cases hk
        rw [if_neg hne]
        rfl
      refine ext_entries ?_
      rw [entries_insert m hk]
      change (m.insert k v).entries.map (fun e => (e.1, if e.1 = k then w else e.2)) = _
      rw [entries_insert m hk, List.map_append, List.map_congr_left hothers, List.map_id,
        List.map_singleton, if_pos rfl]

/-- A key that is not there is erased without a trace. -/
theorem erase_eq_self (h : m.get? k = none) : m.erase k = m := by
  refine ext_entries (List.filter_eq_self.2 ?_)
  rintro ⟨k', v⟩ he
  refine bne_iff_ne.2 ?_
  rintro rfl
  rw [(mem_entries_iff m k' v).1 he] at h
  cases h

/-- A new key that is erased leaves no trace. -/
theorem erase_insert (h : m.get? k = none) (v : α) : (m.insert k v).erase k = m := by
  refine ext_entries ?_
  change (m.insert k v).entries.filter (fun e => e.1 != k) = _
  have hself : m.entries.filter (fun e => e.1 != k) = m.entries :=
    congrArg entries (erase_eq_self m h)
  have hlast : [(k, v)].filter (fun e => e.1 != k) = [] := by simp
  rw [entries_insert m h, List.filter_append, hself, hlast, List.append_nil]

/-- A key that is erased and comes back goes last. -/
theorem entries_insert_erase (k : String) (v : α) :
    ((m.erase k).insert k v).entries = (m.erase k).entries ++ [(k, v)] :=
  entries_insert _ (get?_erase_self m k) v

theorem get?_insert_erase {v : α} (h : m.get? k = some v) (x : String) :
    ((m.erase k).insert k v).get? x = m.get? x := by
  rw [get?_insert, get?_erase]
  by_cases hx : x = k
  · rw [if_pos hx, hx, h]
  · rw [if_neg hx, if_neg hx]

end Keyed

end Shopfloor
