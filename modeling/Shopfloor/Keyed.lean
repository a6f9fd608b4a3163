/-!
# Keyed Maps

Maps from text keys to values that remember the order in which keys arrived.

Everything the shop floor registers is found by an id and listed in the order
of registration, so both facts belong to one type. The entries are a list
without a repeated key: looking a key up is a search, and listing the map is
reading the list. Writing under a key that is present keeps its place; a key
that left and comes back goes last.

That no key repeats is part of the type. Lookups therefore depend on the
entries only up to order, which is what makes order unobservable wherever
nothing but lookups are used.

## Main definitions

* `Keyed`: A map from text to values in order of arrival.
* `Keyed.get?`: The value under a key.
* `Keyed.insert`: Writing a value under a key.
* `Keyed.erase`: Removing a key.
* `Keyed.adjust`: Changing the value under a key in its place.
* `Keyed.sorted`: The entries in the order of their keys.

## Theorems

* `get?_insert_self`, `get?_insert_of_ne`: What a write can be seen to do.
* `get?_erase_self`, `get?_erase_of_ne`: What a removal can be seen to do.
* `get?_adjust`: What a change in place can be seen to do.
-/

namespace Shopfloor

/-- A map from text to values that remembers the order in which its keys arrived. -/
structure Keyed (α : Type) where
  entries : List (String × α)
  nodup : (entries.map Prod.fst).Nodup
deriving DecidableEq, Repr

namespace Keyed

variable {α β : Type}

/-- The map without entries. -/
def empty : Keyed α := ⟨[], List.Pairwise.nil⟩

instance : Inhabited (Keyed α) := ⟨empty⟩

/-- The keys in order of arrival. -/
def keys (m : Keyed α) : List String := m.entries.map Prod.fst

/-- The values in order of arrival. -/
def values (m : Keyed α) : List α := m.entries.map Prod.snd

/-- The number of keys. -/
def size (m : Keyed α) : Nat := m.entries.length

/-- Whether the map has no key. -/
def isEmpty (m : Keyed α) : Bool := m.entries.isEmpty

/-- The value under a key, if the key is present. -/
def get? (m : Keyed α) (k : String) : Option α := m.entries.lookup k

/-- Whether a key is present. -/
def contains (m : Keyed α) (k : String) : Bool := (m.get? k).isSome

/-- The value under a key as a caller names it: nothing is ever stored under an absent key. -/
def find? (m : Keyed α) (k : Option String) : Option α := k.bind m.get?

/-- Changes every value in its place, given its key. -/
def mapValues (f : String → α → β) (m : Keyed α) : Keyed β where
  entries := m.entries.map fun e => (e.1, f e.1 e.2)
  nodup := by
    have h : (m.entries.map fun e => (e.1, f e.1 e.2)).map Prod.fst = m.entries.map Prod.fst := by
      simp [List.map_map, Function.comp_def]
    rw [h]; exact m.nodup

/-- Changes the value under one key in its place; an absent key changes nothing. -/
def adjust (m : Keyed α) (k : String) (f : α → α) : Keyed α :=
  m.mapValues fun k' v => if k' = k then f v else v

/-- Keeps the entries that pass a test. -/
def filter (m : Keyed α) (p : String → α → Bool) : Keyed α where
  entries := m.entries.filter fun e => p e.1 e.2
  nodup := by
    refine List.Pairwise.sublist ?_ m.nodup
    exact List.Sublist.map _ (List.filter_sublist)

/-- Removes a key; an absent key changes nothing. -/
def erase (m : Keyed α) (k : String) : Keyed α := m.filter fun k' _ => k' != k

theorem lookup_eq_none_iff (l : List (String × α)) (k : String) :
    l.lookup k = none ↔ k ∉ l.map Prod.fst := by
  induction l with
  | nil => simp
  | cons e l ih =>
    obtain ⟨k', v⟩ := e
    by_cases h : k = k'
    · subst h; simp
    · have hb : (k == k') = false := by simpa using h
      rw [List.lookup_cons, hb, List.map_cons, List.mem_cons]
      simpa [h] using ih

theorem get?_eq_none_iff (m : Keyed α) (k : String) : m.get? k = none ↔ k ∉ m.keys :=
  lookup_eq_none_iff m.entries k

/-- Adds a new key at the end. -/
def append (m : Keyed α) (k : String) (v : α) (h : m.get? k = none) : Keyed α where
  entries := m.entries ++ [(k, v)]
  nodup := by
    have hk : k ∉ m.entries.map Prod.fst := (lookup_eq_none_iff _ _).1 h
    rw [List.map_append]
    refine List.nodup_append.2 ⟨m.nodup, by simp, ?_⟩
    intro a ha b hb
    simp only [List.map_cons, List.map_nil, List.mem_singleton] at hb
    subst hb
    exact fun he => hk (he ▸ ha)

/-- Writes a value under a key: in its place if the key is present, else at the end. -/
def insert (m : Keyed α) (k : String) (v : α) : Keyed α :=
  if h : m.get? k = none then m.append k v h else m.adjust k fun _ => v

/-- The map that a list of entries leaves when they are written one after the other. -/
def ofList (entries : List (String × α)) : Keyed α :=
  entries.foldl (fun m e => m.insert e.1 e.2) empty

/-- The entries in the order of their keys, which are compared by code point. -/
def sorted (m : Keyed α) : List (String × α) :=
  m.entries.mergeSort fun a b => !decide (b.1 < a.1)

/-- The keys in order. -/
def sortedKeys (m : Keyed α) : List String := m.sorted.map Prod.fst

/-! ### What each operation does to lookups -/

theorem get?_empty (k : String) : (empty : Keyed α).get? k = none := rfl

theorem lookup_map_snd (l : List (String × α)) (f : String → α → β) (k : String) :
    (l.map fun e => (e.1, f e.1 e.2)).lookup k = (l.lookup k).map (f k) := by
  induction l with
  | nil => rfl
  | cons e l ih =>
    obtain ⟨k', v⟩ := e
    by_cases h : k = k'
    · subst h; simp
    · have hb : (k == k') = false := by simpa using h
      simp [List.lookup_cons, hb, ih]

theorem get?_mapValues (m : Keyed α) (f : String → α → β) (k : String) :
    (m.mapValues f).get? k = (m.get? k).map (f k) :=
  lookup_map_snd m.entries f k

theorem get?_adjust (m : Keyed α) (k k' : String) (f : α → α) :
    (m.adjust k f).get? k' = if k' = k then (m.get? k').map f else m.get? k' := by
  rw [adjust, get?_mapValues]
  by_cases h : k' = k
  · simp [h]
  · simp [h]

theorem get?_insert_self (m : Keyed α) (k : String) (v : α) : (m.insert k v).get? k = some v := by
  unfold insert
  split
  · rename_i h
    have h' : m.entries.lookup k = none := h
    simp [append, get?, List.lookup_append, h']
  · rename_i h
    rw [get?_adjust]
    obtain ⟨w, hw⟩ := Option.ne_none_iff_exists'.1 h
    simp [hw]

theorem get?_insert_of_ne (m : Keyed α) {k k' : String} (v : α) (h : k' ≠ k) :
    (m.insert k v).get? k' = m.get? k' := by
  unfold insert
  split
  · have hb : (k' == k) = false := by simpa using h
    simp [append, get?, List.lookup_append, List.lookup_cons, hb]
  · rw [get?_adjust]; simp [h]

theorem lookup_filter_ne (l : List (String × α)) (k k' : String) :
    (l.filter fun e => e.1 != k).lookup k' = if k' = k then none else l.lookup k' := by
  induction l with
  | nil => simp
  | cons e l ih =>
    obtain ⟨k₁, v⟩ := e
    by_cases he : k₁ = k
    · subst he
      have hf : (((k₁, v) :: l).filter fun e => e.1 != k₁) = l.filter fun e => e.1 != k₁ := by
        simp
      rw [hf, ih]
      by_cases h : k' = k₁
      · simp [h]
      · have hb : (k' == k₁) = false := by simpa using h
        simp [List.lookup_cons, hb]
    · have hk : (k₁ != k) = true := by simpa using he
      by_cases h : k' = k₁
      · subst h; simp [he]
      · have hb : (k' == k₁) = false := by simpa using h
        simp [hk, List.lookup_cons, hb, ih]

theorem get?_erase_self (m : Keyed α) (k : String) : (m.erase k).get? k = none := by
  simp [erase, filter, get?, lookup_filter_ne]

theorem get?_erase_of_ne (m : Keyed α) {k k' : String} (h : k' ≠ k) :
    (m.erase k).get? k' = m.get? k' := by
  simp [erase, filter, get?, lookup_filter_ne, h]

end Keyed

end Shopfloor
