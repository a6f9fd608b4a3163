import Shopfloor.Proofs.Keyed.Undo
/-!
# Writes in a Row

What a keyed map holds after one write after the other.

A key gets its place with its first write and keeps it, and it gets its value
from its last write. So the keys come in the order of their first writes, each
of them once, behind those that were there before; and a value is found where
nothing behind it writes the same key.

## Theorems

* `keys_insert`, `keys_foldl_insert`, `keys_ofList`: In which order the keys come.
* `get?_foldl_insert_of_notMem`: What is not written stays.
* `get?_foldl_insert`, `get?_ofList`: What is found if no key is written twice.
-/

namespace Shopfloor

namespace Keyed

variable {α : Type}

/-- A new key comes last. -/
theorem keys_insert (m : Keyed α) (k : String) (v : α) :
    (m.insert k v).keys = if k ∈ m.keys then m.keys else m.keys ++ [k] := by
  by_cases hk : k ∈ m.keys
  · have hget : m.get? k ≠ none := fun hnone => (get?_eq_none_iff m k).1 hnone hk
    rw [if_pos hk, insert, dif_neg hget]
    unfold keys adjust mapValues
    rw [List.map_map]
    rfl
  · rw [if_neg hk]
    unfold keys
    rw [entries_insert m ((get?_eq_none_iff m k).2 hk), List.map_append]
    rfl

/-- New keys come last, in the order of their first writes. -/
theorem keys_foldl_insert (l : List (String × α)) (m : Keyed α) :
    (l.foldl (fun m e => m.insert e.1 e.2) m).keys =
      m.keys ++ ((l.map Prod.fst).removeAll m.keys).eraseDups := by
  induction l generalizing m with
  | nil => exact (List.append_nil _).symm
  | cons e l ih =>
      rw [List.foldl_cons, ih, keys_insert, List.map_cons]
      by_cases hk : e.1 ∈ m.keys
      · rw [if_pos hk]
        simp only [List.removeAll, List.elem_eq_mem, List.filter_cons, hk, decide_true,
          Bool.not_true, Bool.false_eq_true, if_false]
      · -- The first write of a key takes the later ones off the list.
        have hrest : (l.map Prod.fst).removeAll (m.keys ++ [e.1]) =
            ((l.map Prod.fst).removeAll m.keys).filter fun k => !k == e.1 := by
          unfold List.removeAll
          rw [List.filter_filter]
          refine List.filter_congr fun k _ => ?_
          simp [Bool.and_comm, Bool.beq_eq_decide_eq]
        have hfirst : (e.1 :: l.map Prod.fst).removeAll m.keys =
            e.1 :: (l.map Prod.fst).removeAll m.keys := by
          simp only [List.removeAll, List.elem_eq_mem, List.filter_cons, hk, decide_false,
            Bool.not_false, if_true]
        rw [if_neg hk, hrest, hfirst, List.eraseDups_cons, List.append_assoc]
        rfl

/-- The keys of a list come in the order in which they stand there first. -/
theorem keys_ofList (l : List (String × α)) : (ofList l).keys = (l.map Prod.fst).eraseDups := by
  have hall : (l.map Prod.fst).removeAll [] = l.map Prod.fst :=
    List.filter_eq_self.2 fun _ _ => rfl
  unfold ofList
  rw [keys_foldl_insert]
  change [] ++ ((l.map Prod.fst).removeAll []).eraseDups = _
  rw [hall, List.nil_append]

/-- What is under a key that is not written stays. -/
theorem get?_foldl_insert_of_notMem {l : List (String × α)} {k : String}
    (h : k ∉ l.map Prod.fst) (m : Keyed α) :
    (l.foldl (fun m e => m.insert e.1 e.2) m).get? k = m.get? k := by
  induction l generalizing m with
  | nil => rfl
  | cons e l ih =>
      rw [List.map_cons, List.mem_cons, not_or] at h
      rw [List.foldl_cons, ih h.2, get?_insert_of_ne m e.2 h.1]

/-- What is found in a map after entries with different keys were written into it in a row. -/
theorem get?_foldl_insert {l : List (String × α)} (hl : (l.map Prod.fst).Nodup) (m : Keyed α)
    (k : String) :
    (l.foldl (fun m e => m.insert e.1 e.2) m).get? k = (l.lookup k).or (m.get? k) := by
  induction l generalizing m with
  | nil => rfl
  | cons e l ih =>
      rw [List.map_cons, List.nodup_cons] at hl
      rw [List.foldl_cons, ih hl.2, get?_insert, List.lookup_cons]
      by_cases hk : k = e.1
      · -- The key of the first entry is not written again.
        have hnone : l.lookup k = none := by
          rw [lookup_eq_none_iff, hk]
          exact hl.1
        rw [if_pos hk, hnone, beq_iff_eq.2 hk]
        rfl
      · rw [if_neg hk, beq_false_of_ne hk]

theorem get?_ofList {l : List (String × α)} (hl : (l.map Prod.fst).Nodup) (k : String) :
    (ofList l).get? k = l.lookup k := by
  unfold ofList
  rw [get?_foldl_insert hl, get?_empty, Option.or_none]

end Keyed

end Shopfloor
