import Mathlib.Logic.Basic
import Shopfloor.Keyed
/-!
# Lookups in Keyed Maps

What a keyed map holds, said through lookups.

Everything that is proved about the shop is about what is found under an id,
so every operation on maps is described here once by what it does to a lookup.
The order of arrival never enters. Where a proof must go through the list of
entries after all, `mem_entries_iff` turns membership into a lookup, which is
possible because no key repeats.

`All` is how an invariant speaks about a map: it holds of every key together
with the value under it. Each operation keeps it for a reason that is local to
the value that is written, so the invariants of the shop never look at the
other entries of a map.

## Main definitions

* `Keyed.All`: Something holds of every key and the value under it.

## Theorems

* `mem_entries_iff`: The entries are what lookups find.
* `mem_values_iff`: The values are what lookups find.
* `get?_insert`, `get?_erase`: A write and a removal, under any key.
* `find?_eq_some_iff`: A lookup by a name that may be missing.
* `contains_iff`, `contains_eq_false_iff`: Presence of a key.
* `mapValues_eq_self`: Changes in place that change nothing.
* `All.insert`, `All.erase`, `All.mapValues`, `All.adjust`: What keeps `All`.
-/

namespace Shopfloor

namespace Keyed

variable {α β : Type}

theorem lookup_eq_some_iff (l : List (String × α)) (hl : (l.map Prod.fst).Nodup) (k : String)
    (v : α) : l.lookup k = some v ↔ (k, v) ∈ l := by
  induction l with
  | nil => simp
  | cons e l ih =>
      rcases e with ⟨k', v'⟩
      rw [List.map_cons, List.nodup_cons] at hl
      by_cases h : k = k'
      · -- The key stands in front, and no later entry has it.
        subst h
        have hnot : (k, v) ∉ l := fun hm => hl.1 (List.mem_map.2 ⟨(k, v), hm, rfl⟩)
        simp only [List.lookup_cons, beq_self_eq_true, Option.some.injEq, List.mem_cons,
          Prod.mk.injEq, true_and, hnot, or_false]
        exact eq_comm
      · have hb : (k == k') = false := by simpa using h
        rw [List.lookup_cons, hb, List.mem_cons]
        simpa [h] using ih hl.2

theorem mem_entries_iff (m : Keyed α) (k : String) (v : α) :
    (k, v) ∈ m.entries ↔ m.get? k = some v :=
  (lookup_eq_some_iff m.entries m.nodup k v).symm

theorem mem_values_iff (m : Keyed α) (v : α) : v ∈ m.values ↔ ∃ k, m.get? k = some v := by
  unfold values
  rw [List.mem_map]
  constructor
  · rintro ⟨⟨k, w⟩, hm, rfl⟩
    exact ⟨k, (mem_entries_iff m k w).1 hm⟩
  · rintro ⟨k, hk⟩
    exact ⟨(k, v), (mem_entries_iff m k v).2 hk, rfl⟩

/-- Two maps with the same entries are the same map. -/
theorem ext_entries {m m' : Keyed α} (h : m.entries = m'.entries) : m = m' := by
  cases m
  cases m'
  subst h
  rfl

attribute [simp] get?_empty get?_mapValues get?_adjust

@[simp]
theorem get?_insert (m : Keyed α) (k k' : String) (v : α) :
    (m.insert k v).get? k' = if k' = k then some v else m.get? k' := by
  by_cases h : k' = k
  · rw [if_pos h, h, get?_insert_self]
  · rw [if_neg h, get?_insert_of_ne m v h]

@[simp]
theorem get?_erase (m : Keyed α) (k k' : String) :
    (m.erase k).get? k' = if k' = k then none else m.get? k' := by
  by_cases h : k' = k
  · rw [if_pos h, h, get?_erase_self]
  · rw [if_neg h, get?_erase_of_ne m h]

@[simp]
theorem find?_some (m : Keyed α) (k : String) : m.find? (some k) = m.get? k := rfl

@[simp]
theorem find?_none (m : Keyed α) : m.find? none = none := rfl

theorem find?_eq_some_iff (m : Keyed α) (k : Option String) (v : α) :
    m.find? k = some v ↔ ∃ i, k = some i ∧ m.get? i = some v := by
  cases k with
  | none => simp
  | some i => simp

theorem contains_iff (m : Keyed α) (k : String) :
    m.contains k = true ↔ ∃ v, m.get? k = some v := by
  unfold contains
  rw [Option.isSome_iff_exists]

theorem contains_eq_false_iff (m : Keyed α) (k : String) :
    m.contains k = false ↔ m.get? k = none := by
  unfold contains
  exact Option.isSome_eq_false_iff.trans Option.isNone_iff_eq_none

@[simp]
theorem contains_adjust (m : Keyed α) (k k' : String) (f : α → α) :
    (m.adjust k f).contains k' = m.contains k' := by
  unfold contains
  rw [get?_adjust]
  by_cases h : k' = k
  · rw [if_pos h, Option.isSome_map]
  · rw [if_neg h]

/-- A change in place changes nothing if it changes no value that is there. -/
theorem mapValues_eq_self (m : Keyed α) (f : String → α → α)
    (h : ∀ k v, m.get? k = some v → f k v = v) : m.mapValues f = m := by
  refine ext_entries ?_
  change m.entries.map (fun e => (e.1, f e.1 e.2)) = m.entries
  have hid : ∀ e ∈ m.entries, (e.1, f e.1 e.2) = id e := by
    rintro ⟨k, v⟩ he
    rw [h k v ((mem_entries_iff m k v).1 he)]
    rfl
  rw [List.map_congr_left hid, List.map_id]

theorem mapValues_congr (m : Keyed α) {f g : String → α → β}
    (h : ∀ k v, m.get? k = some v → f k v = g k v) : m.mapValues f = m.mapValues g := by
  refine ext_entries (List.map_congr_left ?_)
  rintro ⟨k, v⟩ he
  rw [h k v ((mem_entries_iff m k v).1 he)]

theorem adjust_congr (m : Keyed α) {k : String} {f g : α → α}
    (h : ∀ v, m.get? k = some v → f v = g v) : m.adjust k f = m.adjust k g := by
  refine mapValues_congr m fun k' v hv => ?_
  by_cases hk : k' = k
  · rw [if_pos hk, if_pos hk, h v (hk ▸ hv)]
  · rw [if_neg hk, if_neg hk]

theorem mapValues_mapValues {γ : Type} (m : Keyed α) (f : String → α → β) (g : String → β → γ) :
    (m.mapValues f).mapValues g = m.mapValues fun k v => g k (f k v) := by
  refine ext_entries ?_
  change (m.entries.map _).map _ = m.entries.map _
  rw [List.map_map]
  rfl

/-- Something holds of every key and the value under it. -/
def All (P : String → α → Prop) (m : Keyed α) : Prop := ∀ k v, m.get? k = some v → P k v

section All

variable {P Q : String → α → Prop} {m : Keyed α}

theorem All.empty (P : String → α → Prop) : (Keyed.empty : Keyed α).All P := by
  intro k v h
  rw [get?_empty] at h
  cases h

theorem All.mono (h : m.All P) (hPQ : ∀ k v, P k v → Q k v) : m.All Q :=
  fun k v hk => hPQ k v (h k v hk)

theorem All.insert (h : m.All P) {k : String} {v : α} (hv : P k v) : (m.insert k v).All P := by
  intro k' v' hk
  rw [get?_insert] at hk
  by_cases he : k' = k
  · rw [if_pos he, Option.some.injEq] at hk
    rw [← hk, he]
    exact hv
  · rw [if_neg he] at hk
    exact h k' v' hk

theorem All.erase (h : m.All P) (k : String) : (m.erase k).All P := by
  intro k' v' hk
  rw [get?_erase] at hk
  by_cases he : k' = k
  · rw [if_pos he] at hk
    cases hk
  · rw [if_neg he] at hk
    exact h k' v' hk

theorem All.mapValues {R : String → β → Prop} (h : m.All P) {f : String → α → β}
    (hf : ∀ k v, P k v → R k (f k v)) : (m.mapValues f).All R := by
  intro k w hk
  rw [get?_mapValues, Option.map_eq_some_iff] at hk
  rcases hk with ⟨v, hv, rfl⟩
  exact hf k v (h k v hv)

theorem All.adjust (h : m.All P) {k : String} {f : α → α} (hf : ∀ v, P k v → P k (f v)) :
    (m.adjust k f).All P := by
  refine h.mapValues fun k' v hv => ?_
  by_cases he : k' = k
  · subst he
    rw [if_pos rfl]
    exact hf v hv
  · rw [if_neg he]
    exact hv

end All

end Keyed

end Shopfloor
