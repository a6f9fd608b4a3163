import Mathlib.Data.List.Forall2
import Shopfloor.Proofs.Keyed.Total
/-!
# Keyed Maps up to Order

Two maps that differ in the order of their entries and in nothing else.

`Reordered` says so of the entries themselves: those of the one map are those of
the other in some order, and the values under one key stand in a given relation.
The relation is equality where values hold no maps, and something weaker where
they do. Because no key repeats, the same can be said through lookups, and
`reordered_iff` is how it is used: every operation on maps keeps it for the
reason that it acts on lookups alike.

What is listed in the order of keys does not depend on the order of arrival.
`mergeSort_eq_of_perm` is the fact about sorting behind this.

## Main definitions

* `Keyed.Reordered`: The same entries in another order, with related values.

## Theorems

* `reordered_iff`: The same, said through lookups.
* `Reordered.symm`, `Reordered.trans`: An equivalence, if the relation of values is one.
* `Reordered.insert`, `Reordered.erase`, `Reordered.mapValues`, `Reordered.adjust`: What keeps it.
* `Reordered.size_eq`, `Reordered.flatMap_perm`: What is the same in both maps.
* `pairwise_mergeSort_key`: What is sorted by keys stands in the order of its keys.
* `mergeSort_eq_of_perm`, `Reordered.sorted_eq`: Sorting forgets the order of arrival.
-/

namespace Shopfloor

/-- What is sorted by keys stands in the order of its keys. -/
theorem pairwise_mergeSort_key {α : Type} (key : α → String) (l : List α) :
    (l.mergeSort fun a b => !decide (key b < key a)).Pairwise fun a b => key a ≤ key b := by
  have hle : ∀ a b, (!decide (key b < key a)) = true ↔ key a ≤ key b := by
    intro a b
    rw [Bool.not_eq_true', decide_eq_false_iff_not]
    exact String.not_lt
  have hsorted : (l.mergeSort fun a b => !decide (key b < key a)).Pairwise
      fun a b => (!decide (key b < key a)) = true := by
    refine List.pairwise_mergeSort (fun a b c hab hbc => ?_) (fun a b => ?_) l
    · rw [hle] at hab hbc ⊢
      exact String.le_trans hab hbc
    · rw [Bool.or_eq_true, hle, hle]
      exact String.le_total _ _
  exact hsorted.imp fun h => (hle _ _).1 h

/-- Texts come in one order only when they are sorted by keys that tell them apart. -/
theorem mergeSort_eq_of_perm {α : Type} (key : α → String) {l l' : List α} (h : l.Perm l')
    (hkey : ∀ a ∈ l, ∀ b ∈ l, key a = key b → a = b) :
    (l.mergeSort fun a b => !decide (key b < key a)) =
      l'.mergeSort fun a b => !decide (key b < key a) := by
  -- Two sorted lists of the same elements, in an order that tells them apart.
  have hperm : (l.mergeSort fun a b => !decide (key b < key a)).Perm
      (l'.mergeSort fun a b => !decide (key b < key a)) :=
    ((List.mergeSort_perm l _).trans h).trans (List.mergeSort_perm l' _).symm
  refine hperm.eq_of_pairwise (fun a b ha hb hab hba => ?_) (pairwise_mergeSort_key key l)
    (pairwise_mergeSort_key key l')
  rw [List.mem_mergeSort] at ha hb
  exact hkey a ha b (h.mem_iff.2 hb) (String.le_antisymm hab hba)

namespace Keyed

variable {α β γ δ : Type}

/-- The same entries in another order, with related values under the same key. -/
def Reordered (R : α → β → Prop) (m : Keyed α) (m' : Keyed β) : Prop :=
  ∃ l, m'.entries.Perm l ∧ List.Forall₂ (fun e e' => e.1 = e'.1 ∧ R e.2 e'.2) m.entries l

theorem lookup_eq_of_perm {l l' : List (String × α)} (h : l.Perm l')
    (hl : (l.map Prod.fst).Nodup) (k : String) : l.lookup k = l'.lookup k := by
  have hl' : (l'.map Prod.fst).Nodup := (h.map Prod.fst).nodup hl
  refine Option.ext fun v => ?_
  rw [lookup_eq_some_iff l hl, lookup_eq_some_iff l' hl', h.mem_iff]

theorem lookup_rel_of_forall₂ {R : α → β → Prop} {l : List (String × α)} {l' : List (String × β)}
    (h : List.Forall₂ (fun e e' => e.1 = e'.1 ∧ R e.2 e'.2) l l') (k : String) :
    Option.Rel R (l.lookup k) (l'.lookup k) := by
  induction h with
  | nil => exact .none
  | @cons e e' l l' he _ ih =>
      rcases e with ⟨x, v⟩
      rcases e' with ⟨x', v'⟩
      rcases he with ⟨hx, hv⟩
      dsimp only at hx hv
      subst hx
      rw [List.lookup_cons, List.lookup_cons]
      cases k == x with
      | true => exact .some hv
      | false => exact ih

/-- Entries that are found alike can be put side by side. -/
theorem forall₂_of_lookup_rel {R : α → β → Prop} (l : List (String × α))
    (hl : (l.map Prod.fst).Nodup) {l' : List (String × β)} (hl' : (l'.map Prod.fst).Nodup)
    (h : ∀ k, Option.Rel R (l.lookup k) (l'.lookup k)) :
    ∃ l'', l'.Perm l'' ∧ List.Forall₂ (fun e e' => e.1 = e'.1 ∧ R e.2 e'.2) l l'' := by
  induction l generalizing l' with
  | nil =>
      cases l' with
      | nil => exact ⟨[], .refl _, .nil⟩
      | cons e l' =>
          have hnone := h e.1
          rw [List.lookup_nil, List.lookup_cons, beq_self_eq_true] at hnone
          cases hnone
  | cons e l ih =>
      rcases e with ⟨k, v⟩
      rw [List.map_cons, List.nodup_cons] at hl
      have hk := h k
      rw [List.lookup_cons, beq_self_eq_true] at hk
      cases hk' : l'.lookup k with
      | none =>
          rw [hk'] at hk
          cases hk
      | some v' =>
          rw [hk'] at hk
          cases hk with
          | some hv =>
              -- The partner of the first entry goes to the front; the others are found alike.
              have hperm := perm_filter_ne l' hl' hk'
              have hrest : ∀ x, Option.Rel R (l.lookup x)
                  ((l'.filter fun e => e.1 != k).lookup x) := by
                intro x
                rw [lookup_filter_ne]
                by_cases hx : x = k
                · rw [if_pos hx, hx, (lookup_eq_none_iff l k).2 hl.1]
                  exact .none
                · have hb : (x == k) = false := beq_eq_false_iff_ne.2 hx
                  have hrel := h x
                  rw [List.lookup_cons, hb] at hrel
                  rw [if_neg hx]
                  exact hrel
              have hnodup : ((l'.filter fun e => e.1 != k).map Prod.fst).Nodup :=
                (List.filter_sublist.map Prod.fst).nodup hl'
              rcases ih hl.2 hnodup hrest with ⟨l'', hl'', hall⟩
              exact ⟨(k, v') :: l'', hperm.trans (hl''.cons _), .cons ⟨rfl, hv⟩ hall⟩

/-- Two maps differ in order alone exactly if every lookup finds related values in both. -/
theorem reordered_iff {R : α → β → Prop} (m : Keyed α) (m' : Keyed β) :
    m.Reordered R m' ↔ ∀ k, Option.Rel R (m.get? k) (m'.get? k) := by
  constructor
  · rintro ⟨l, hperm, hall⟩ k
    have hsame : m'.get? k = l.lookup k := lookup_eq_of_perm hperm m'.nodup k
    rw [hsame]
    exact lookup_rel_of_forall₂ hall k
  · intro h
    exact forall₂_of_lookup_rel m.entries m.nodup m'.nodup h

/-- Maps may change sides if values may. -/
theorem Reordered.symm {R : α → β → Prop} {S : β → α → Prop} {m : Keyed α} {m' : Keyed β}
    (h : m.Reordered R m') (hR : ∀ v v', R v v' → S v' v) : m'.Reordered S m := by
  rw [reordered_iff] at h ⊢
  intro k
  have hrel := h k
  generalize m.get? k = x at hrel ⊢
  generalize m'.get? k = y at hrel ⊢
  cases hrel with
  | none => exact .none
  | some hv => exact .some (hR _ _ hv)

theorem Reordered.trans {R : α → β → Prop} {S : β → γ → Prop} {T : α → γ → Prop} {m : Keyed α}
    {m' : Keyed β} {m'' : Keyed γ} (h : m.Reordered R m') (h' : m'.Reordered S m'')
    (hT : ∀ v v' v'', R v v' → S v' v'' → T v v'') : m.Reordered T m'' := by
  rw [reordered_iff] at h h' ⊢
  intro k
  have hrel := h k
  have hrel' := h' k
  generalize m.get? k = x at hrel ⊢
  generalize m'.get? k = y at hrel hrel'
  generalize m''.get? k = z at hrel' ⊢
  -- What is under the key in the middle map is under it in both others.
  cases hrel with
  | none =>
      cases hrel'
      exact .none
  | some hv =>
      cases hrel' with
      | some hv' => exact .some (hT _ _ _ hv hv')

section Reordered

variable {R : α → β → Prop} {S : γ → δ → Prop} {m : Keyed α} {m' : Keyed β}

theorem Reordered.get? (h : m.Reordered R m') (k : String) :
    Option.Rel R (m.get? k) (m'.get? k) :=
  (reordered_iff m m').1 h k

theorem Reordered.find? (h : m.Reordered R m') (k : Option String) :
    Option.Rel R (m.find? k) (m'.find? k) := by
  cases k with
  | none => exact .none
  | some k => exact h.get? k

theorem Reordered.get?_some (h : m.Reordered R m') {k : String} {v : α} (hk : m.get? k = some v) :
    ∃ v', m'.get? k = some v' ∧ R v v' := by
  have hrel := h.get? k
  rw [hk] at hrel
  cases hget : m'.get? k with
  | none =>
      rw [hget] at hrel
      cases hrel
  | some v' =>
      rw [hget] at hrel
      cases hrel with
      | some hv => exact ⟨v', rfl, hv⟩

theorem rel_isSome {x : Option α} {y : Option β} (h : Option.Rel R x y) :
    x.isSome = y.isSome := by
  cases h <;> rfl

theorem Reordered.contains_eq (h : m.Reordered R m') (k : String) :
    m.contains k = m'.contains k :=
  rel_isSome (h.get? k)

theorem reordered_of_perm {R : α → α → Prop} (hR : ∀ v, R v v) {m m' : Keyed α}
    (h : m.entries.Perm m'.entries) : m.Reordered R m' :=
  ⟨m.entries, h.symm, List.forall₂_same.2 fun e _ => ⟨rfl, hR e.2⟩⟩

theorem reordered_refl {R : α → α → Prop} (hR : ∀ v, R v v) (m : Keyed α) : m.Reordered R m :=
  reordered_of_perm hR (.refl _)

theorem reordered_empty (R : α → β → Prop) :
    (Keyed.empty : Keyed α).Reordered R (Keyed.empty : Keyed β) :=
  ⟨[], .refl _, .nil⟩

theorem Reordered.insert (h : m.Reordered R m') (k : String) {v : α} {v' : β} (hv : R v v') :
    (m.insert k v).Reordered R (m'.insert k v') := by
  refine (reordered_iff _ _).2 fun x => ?_
  rw [get?_insert, get?_insert]
  by_cases hx : x = k
  · rw [if_pos hx, if_pos hx]
    exact .some hv
  · rw [if_neg hx, if_neg hx]
    exact h.get? x

theorem Reordered.erase (h : m.Reordered R m') (k : String) :
    (m.erase k).Reordered R (m'.erase k) := by
  refine (reordered_iff _ _).2 fun x => ?_
  rw [get?_erase, get?_erase]
  by_cases hx : x = k
  · rw [if_pos hx, if_pos hx]
    exact .none
  · rw [if_neg hx, if_neg hx]
    exact h.get? x

/-- A change in place keeps two maps alike if it is alike on every two values that are under the
    same key. -/
theorem Reordered.mapValues (h : m.Reordered R m') {f : String → α → γ} {f' : String → β → δ}
    (hf : ∀ k v v', m.get? k = some v → m'.get? k = some v' → R v v' → S (f k v) (f' k v')) :
    (m.mapValues f).Reordered S (m'.mapValues f') := by
  refine (reordered_iff _ _).2 fun x => ?_
  rw [get?_mapValues, get?_mapValues]
  have hrel := h.get? x
  -- A key is in both maps or in none.
  cases hx : m.get? x with
  | none =>
      rw [hx] at hrel
      cases hx' : m'.get? x with
      | none => exact .none
      | some v' =>
          rw [hx'] at hrel
          cases hrel
  | some v =>
      rcases h.get?_some hx with ⟨v', hx', hv⟩
      rw [hx']
      exact .some (hf x v v' hx hx' hv)

theorem Reordered.adjust (h : m.Reordered R m') (k : String) {f : α → α} {f' : β → β}
    (hf : ∀ v v', R v v' → R (f v) (f' v')) : (m.adjust k f).Reordered R (m'.adjust k f') := by
  refine h.mapValues fun x v v' _ _ hv => ?_
  by_cases hx : x = k
  · rw [if_pos hx, if_pos hx]
    exact hf v v' hv
  · rw [if_neg hx, if_neg hx]
    exact hv

theorem Reordered.size_eq (h : m.Reordered R m') : m.size = m'.size := by
  rcases h with ⟨l, hperm, hall⟩
  exact hall.length_eq.trans hperm.length_eq.symm

/-- Lists that hang on related values hold together the same elements. -/
theorem Reordered.flatMap_perm (h : m.Reordered R m') {ε : Type} {g : α → List ε}
    {g' : β → List ε} (hg : ∀ v v', R v v' → (g v).Perm (g' v')) :
    (m.values.flatMap g).Perm (m'.values.flatMap g') := by
  rcases h with ⟨l, hperm, hall⟩
  -- Entries that stand side by side hold the same; then the second map is put in its order.
  have hside : (m.values.flatMap g).Perm ((l.map Prod.snd).flatMap g') := by
    unfold values
    clear hperm
    generalize m.entries = entries at hall ⊢
    induction hall with
    | nil => exact .refl _
    | cons he _ ih =>
        rw [List.map_cons, List.map_cons, List.flatMap_cons, List.flatMap_cons]
        exact (hg _ _ he.2).append ih
  exact hside.trans (List.Perm.flatMap (hperm.map Prod.snd) fun _ _ => .refl _).symm

end Reordered

section Equal

variable {m m' : Keyed α}

/-- Where values are the same, the entries are. -/
theorem Reordered.perm (h : m.Reordered (· = ·) m') : m.entries.Perm m'.entries := by
  rcases h with ⟨l, hperm, hall⟩
  have heq : m.entries = l := by
    clear hperm
    generalize m.entries = entries at hall ⊢
    induction hall with
    | nil => rfl
    | cons he _ ih => rw [Prod.ext he.1 he.2, ih]
  rw [heq]
  exact hperm.symm

theorem Reordered.get?_eq (h : m.Reordered (· = ·) m') (k : String) : m.get? k = m'.get? k := by
  have hrel := h.get? k
  generalize m.get? k = x at hrel
  generalize m'.get? k = y at hrel
  cases hrel with
  | none => rfl
  | some hv => rw [hv]

theorem Reordered.find?_eq (h : m.Reordered (· = ·) m') (k : Option String) :
    m.find? k = m'.find? k := by
  cases k with
  | none => rfl
  | some k => exact h.get?_eq k

/-- Sorted entries do not depend on the order of arrival. -/
theorem Reordered.sorted_eq (h : m.Reordered (· = ·) m') : m.sorted = m'.sorted := by
  refine mergeSort_eq_of_perm Prod.fst h.perm ?_
  rintro ⟨k, v⟩ ha ⟨k', v'⟩ hb hkey
  have hk : k = k' := hkey
  subst hk
  have hv := (mem_entries_iff m k v).1 ha
  rw [(mem_entries_iff m k v').1 hb] at hv
  rw [Option.some.inj hv]

end Equal

end Keyed

end Shopfloor
