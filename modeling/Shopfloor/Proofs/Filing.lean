import Shopfloor.Proofs.Floor
/-!
# Filing

Every record is under its own id, and what stands in a store is in that store
and in no other.

Inventories and devices are found by searching all stores, yet a store refuses
only an id that it has itself. That ids are unique over all stores is therefore
a fact about the whole shop. It is put here as two maps that hang on the stores
being `Apart`: no key is in two of them. Where a record stands is checked when
it is registered, and stays true because aisles and shelves are never taken
away while their store is open.

`Filing` speaks about the stores and nothing else. What it says about one store
depends on its fixtures only, so it passes over everything that merely lists
people, see `Filing.of_floor`.

## Main definitions

* `Keyed.Apart`: No key is in two of the maps that hang on the entries.
* `Store.Filed`: What a store owns is under its id and stands in the store.
* `Filing`: All stores are filed, and no inventory or device is in two.
* `Shop.Filed`: Everything that is registered is under its id.

## Theorems

* `Apart.insert`, `Apart.erase`, `Apart.mapValues`: What keeps maps apart.
* `Store.Filed.withAisles`: An aisle or a shelf is added.
* `Filing.insert`, `Filing.replace`: A store is written.
* `Filing.erase`, `Filing.of_floor`, `Filing.recount`: Stores go, list people, are counted.
-/

namespace Shopfloor

namespace Keyed

variable {α β γ : Type}

/-- No key is in two of the maps that hang on the entries. -/
def Apart (m : Keyed α) (f : α → Keyed β) : Prop :=
  ∀ k k' v v' i, m.get? k = some v → m.get? k' = some v' →
    (f v).contains i = true → (f v').contains i = true → k = k'

theorem contains_mapValues (m : Keyed α) (g : String → α → β) (k : String) :
    (m.mapValues g).contains k = m.contains k := by
  unfold contains
  rw [get?_mapValues, Option.isSome_map]

theorem contains_insert (m : Keyed α) (k k' : String) (v : α) :
    (m.insert k v).contains k' = true ↔ k' = k ∨ m.contains k' = true := by
  unfold contains
  rw [get?_insert]
  by_cases h : k' = k
  · simp [h]
  · simp [h]

variable {m : Keyed α} {f : α → Keyed β}

theorem Apart.empty (f : α → Keyed β) : (Keyed.empty : Keyed α).Apart f := by
  intro k k' v v' i hk
  rw [get?_empty] at hk
  cases hk

theorem Apart.insert (h : m.Apart f) {k : String} {v : α}
    (hv : ∀ i, (f v).contains i = true → ∀ k' v', m.get? k' = some v' →
      (f v').contains i = true → k' = k) :
    (m.insert k v).Apart f := by
  intro k₁ k₂ v₁ v₂ i h₁ h₂ hi₁ hi₂
  rw [get?_insert] at h₁ h₂
  -- Either of the two entries may be the new one.
  by_cases hk₁ : k₁ = k
  · rw [if_pos hk₁, Option.some.injEq] at h₁
    by_cases hk₂ : k₂ = k
    · exact hk₁.trans hk₂.symm
    · rw [if_neg hk₂] at h₂
      rw [← h₁] at hi₁
      exact hk₁.trans (hv i hi₁ k₂ v₂ h₂ hi₂).symm
  · rw [if_neg hk₁] at h₁
    by_cases hk₂ : k₂ = k
    · rw [if_pos hk₂, Option.some.injEq] at h₂
      rw [← h₂] at hi₂
      exact (hv i hi₂ k₁ v₁ h₁ hi₁).trans hk₂.symm
    · rw [if_neg hk₂] at h₂
      exact h k₁ k₂ v₁ v₂ i h₁ h₂ hi₁ hi₂

/-- Maps stay apart if every one that is left has an entry that had the same keys before. -/
theorem Apart.of_entries (h : m.Apart f) {m' : Keyed γ} {g : γ → Keyed β}
    (hm : ∀ k v', m'.get? k = some v' → ∃ v, m.get? k = some v ∧
      ∀ i, (g v').contains i = true → (f v).contains i = true) : m'.Apart g := by
  intro k₁ k₂ v₁ v₂ i h₁ h₂ hi₁ hi₂
  rcases hm k₁ v₁ h₁ with ⟨w₁, hw₁, hf₁⟩
  rcases hm k₂ v₂ h₂ with ⟨w₂, hw₂, hf₂⟩
  exact h k₁ k₂ w₁ w₂ i hw₁ hw₂ (hf₁ i hi₁) (hf₂ i hi₂)

theorem Apart.erase (h : m.Apart f) (k : String) : (m.erase k).Apart f := by
  refine h.of_entries fun k' v hk => ⟨v, ?_, fun i hi => hi⟩
  rw [get?_erase] at hk
  by_cases he : k' = k
  · rw [if_pos he] at hk
    cases hk
  · rwa [if_neg he] at hk

end Keyed

namespace Store

/-- A store has an aisle. -/
def HasAisle (s : Store) (n : String) : Prop := ∃ a, s.aisles.get? n = some a

/-- A store has a shelf in an aisle. -/
def HasShelf (s : Store) (n b : String) : Prop :=
  ∃ a board, s.aisles.get? n = some a ∧ a.shelves.get? b = some board

/-- What a store owns is under its id and stands in the store. -/
structure Filed (s : Store) : Prop where
  aisles : s.aisles.All fun n a => a.number = n ∧ a.shelves.All fun i b => b.id = i
  inventory : s.inventory.All fun k i =>
    i.id = k ∧ i.spot.store = s.id ∧ s.HasShelf i.spot.aisle i.spot.shelf
  devices : s.devices.All fun k d => d.id = k ∧ d.spot.store = s.id ∧ s.HasAisle d.spot.aisle

theorem filed_bare (id address description : String) : (bare id address description).Filed :=
  ⟨Keyed.All.empty _, Keyed.All.empty _, Keyed.All.empty _⟩

variable {s s' : Store}

/-- Whether a store is filed depends on its fixtures alone. -/
theorem Filed.of_fixtures (h : s.Filed) (he : s'.fixtures = s.fixtures) : s'.Filed := by
  rcases (Store.fixtures_eq_iff s s').1 he with ⟨hid, -, -, haisles, hinventory, hdevices⟩
  constructor
  · rw [haisles]
    exact h.aisles
  · rw [hinventory, hid]
    unfold HasShelf
    rw [haisles]
    exact h.inventory
  · rw [hdevices, hid]
    unfold HasAisle
    rw [haisles]
    exact h.devices

/-- Aisles and shelves may be added: what stood in one of them still does. -/
theorem Filed.withAisles (h : s.Filed) {aisles : Keyed Aisle}
    (hall : aisles.All fun n a => a.number = n ∧ a.shelves.All fun i b => b.id = i)
    (hkeep : ∀ n a, s.aisles.get? n = some a → ∃ a', aisles.get? n = some a' ∧
      ∀ i b, a.shelves.get? i = some b → ∃ b', a'.shelves.get? i = some b') :
    ({ s with aisles := aisles } : Store).Filed := by
  refine ⟨hall, ?_, ?_⟩
  · refine h.inventory.mono fun k i hi => ⟨hi.1, hi.2.1, ?_⟩
    -- The aisle and the shelf of an inventory are kept, though they may be other records.
    rcases hi.2.2 with ⟨a, board, ha, hb⟩
    rcases hkeep _ a ha with ⟨a', ha', hshelves⟩
    rcases hshelves _ board hb with ⟨board', hb'⟩
    exact ⟨a', board', ha', hb'⟩
  · refine h.devices.mono fun k d hd => ⟨hd.1, hd.2.1, ?_⟩
    rcases hd.2.2 with ⟨a, ha⟩
    rcases hkeep _ a ha with ⟨a', ha', -⟩
    exact ⟨a', ha'⟩

/-- A new aisle leaves the others as they are. -/
theorem Filed.addAisle (h : s.Filed) {n : String} {a : Aisle} (hn : s.aisles.get? n = none)
    (hid : a.number = n) (ha : a.shelves = .empty) :
    ({ s with aisles := s.aisles.insert n a } : Store).Filed := by
  refine h.withAisles (h.aisles.insert ⟨hid, ha ▸ Keyed.All.empty _⟩) fun n' a' ha' => ?_
  have hne : n' ≠ n := by
    rintro rfl
    rw [hn] at ha'
    cases ha'
  refine ⟨a', ?_, fun i b hb => ⟨b, hb⟩⟩
  rw [Keyed.get?_insert, if_neg hne]
  exact ha'

/-- A shelf in an aisle leaves the other aisles and the other shelves as they are. -/
theorem Filed.addShelf (h : s.Filed) {n i : String} {a : Aisle} {b : Shelf}
    (ha : s.aisles.get? n = some a) (hid : b.id = i) :
    ({ s with aisles := s.aisles.insert a.number { a with shelves := a.shelves.insert i b } } :
      Store).Filed := by
  have hfiled := h.aisles n a ha
  refine h.withAisles (h.aisles.insert ⟨rfl, hfiled.2.insert hid⟩) fun n' a' ha' => ?_
  rw [Keyed.get?_insert]
  -- The aisle that is written keeps all of its shelves; the other aisles are not written.
  by_cases hn : n' = a.number
  · rw [if_pos hn]
    refine ⟨_, rfl, fun x b' hb' => ?_⟩
    rw [hn, hfiled.1, ha, Option.some.injEq] at ha'
    rw [Keyed.get?_insert]
    by_cases hx : x = i
    · rw [if_pos hx]
      exact ⟨b, rfl⟩
    · rw [if_neg hx, ha']
      exact ⟨b', hb'⟩
  · rw [if_neg hn]
    exact ⟨a', ha', fun x b' hb' => ⟨b', hb'⟩⟩

/-- An inventory is taken up that stands on a shelf of the store. -/
theorem Filed.addInventory (h : s.Filed) {i n b : String} {a : Aisle} {board : Shelf}
    {j : Inventory} (ha : s.aisles.get? n = some a) (hb : a.shelves.get? b = some board)
    (hid : j.id = i) (hspot : j.spot = ⟨s.id, a.number, board.id⟩) :
    ({ s with inventory := s.inventory.insert i j } : Store).Filed := by
  have haisle := h.aisles n a ha
  have hboard := haisle.2 b board hb
  have hshelf : s.HasShelf a.number board.id := by
    rw [haisle.1, hboard]
    exact ⟨a, board, ha, hb⟩
  refine ⟨h.aisles, h.inventory.insert ⟨hid, ?_, ?_⟩, h.devices⟩
  · rw [hspot]
  · rw [hspot]
    exact hshelf

/-- A device is installed that stands in an aisle of the store. -/
theorem Filed.addDevice (h : s.Filed) {i n : String} {a : Aisle} {d : Device}
    (ha : s.aisles.get? n = some a) (hid : d.id = i) (hspot : d.spot = ⟨s.id, a.number⟩) :
    ({ s with devices := s.devices.insert i d } : Store).Filed := by
  have hnumber := (h.aisles n a ha).1
  have haisle : s.HasAisle a.number := by
    rw [hnumber]
    exact ⟨a, ha⟩
  refine ⟨h.aisles, h.inventory, h.devices.insert ⟨hid, ?_, ?_⟩⟩
  · rw [hspot]
  · rw [hspot]
    exact haisle

end Store

/-- All stores are filed, and no inventory and no device is in two of them. -/
structure Filing (stores : Keyed Store) : Prop where
  filed : stores.All fun k s => s.id = k ∧ s.Filed
  inventory : stores.Apart Store.inventory
  devices : stores.Apart Store.devices

namespace Filing

variable {stores stores' : Keyed Store}

theorem empty : Filing .empty := ⟨Keyed.All.empty _, Keyed.Apart.empty _, Keyed.Apart.empty _⟩

/-- A store is written that has no inventory and no device of another store. -/
theorem insert (h : Filing stores) {s : Store} (hs : s.Filed)
    (hi : ∀ i, s.inventory.contains i = true → ∀ k t, stores.get? k = some t →
      t.inventory.contains i = true → k = s.id)
    (hd : ∀ i, s.devices.contains i = true → ∀ k t, stores.get? k = some t →
      t.devices.contains i = true → k = s.id) :
    Filing (stores.insert s.id s) :=
  ⟨h.filed.insert ⟨rfl, hs⟩, h.inventory.insert hi, h.devices.insert hd⟩

/-- A store is written over what was under its id. The inventories and devices that it did not
    have before are in no store. -/
theorem replace (h : Filing stores) {k : String} {s s' : Store} (hk : stores.get? k = some s)
    (hs : s'.Filed) (hid : s'.id = s.id)
    (hi : ∀ i, s'.inventory.contains i = true → s.inventory.contains i = true ∨
      ∀ k t, stores.get? k = some t → t.inventory.contains i = false)
    (hd : ∀ i, s'.devices.contains i = true → s.devices.contains i = true ∨
      ∀ k t, stores.get? k = some t → t.devices.contains i = false) :
    Filing (stores.insert s'.id s') := by
  have hkey : s'.id = k := hid.trans (h.filed k s hk).1
  refine h.insert hs (fun i hin k' t ht hti => ?_) (fun i hin k' t ht hti => ?_)
  · rw [hkey]
    -- An inventory it had before is in no other store, and a new one is in none at all.
    rcases hi i hin with hold | hfree
    · exact h.inventory k' k t s i ht hk hti hold
    · rw [hfree k' t ht] at hti
      cases hti
  · rw [hkey]
    rcases hd i hin with hold | hfree
    · exact h.devices k' k t s i ht hk hti hold
    · rw [hfree k' t ht] at hti
      cases hti

theorem erase (h : Filing stores) (k : String) : Filing (stores.erase k) :=
  ⟨h.filed.erase k, h.inventory.erase k, h.devices.erase k⟩

/-- Stores with the same floor are found under the same ids and have the same fixtures. -/
theorem fixtures_of_floor
    (he : (stores'.mapValues fun _ s => s.fixtures) = stores.mapValues fun _ s => s.fixtures)
    {k : String} {s' : Store} (hs' : stores'.get? k = some s') :
    ∃ s, stores.get? k = some s ∧ s'.fixtures = s.fixtures := by
  have hget := congrArg (fun m => m.get? k) he
  rw [Keyed.get?_mapValues, Keyed.get?_mapValues, hs', Option.map_some] at hget
  rcases Option.map_eq_some_iff.1 hget.symm with ⟨s, hs, hfix⟩
  exact ⟨s, hs, hfix.symm⟩

/-- Whether stores are filed can be told from their floor. -/
theorem of_floor (h : Filing stores)
    (he : (stores'.mapValues fun _ s => s.fixtures) = stores.mapValues fun _ s => s.fixtures) :
    Filing stores' := by
  constructor
  · intro k s' hs'
    -- Every store that is left has one with the same fixtures behind it.
    rcases fixtures_of_floor he hs' with ⟨s, hs, hfix⟩
    have hid := ((Store.fixtures_eq_iff s s').1 hfix).1
    exact ⟨hid.trans (h.filed k s hs).1, (h.filed k s hs).2.of_fixtures hfix⟩
  · refine h.inventory.of_entries fun k s' hs' => ?_
    rcases fixtures_of_floor he hs' with ⟨s, hs, hfix⟩
    rcases (Store.fixtures_eq_iff s s').1 hfix with ⟨-, -, -, -, hinventory, -⟩
    exact ⟨s, hs, fun i hi => hinventory ▸ hi⟩
  · refine h.devices.of_entries fun k s' hs' => ?_
    rcases fixtures_of_floor he hs' with ⟨s, hs, hfix⟩
    rcases (Store.fixtures_eq_iff s s').1 hfix with ⟨-, -, -, -, -, hdevices⟩
    exact ⟨s, hs, fun i hi => hdevices ▸ hi⟩

end Filing

namespace Shop

/-- Everything that is registered is under its id, and what stands in a store is in no other. -/
structure Filed (shop : Shop) : Prop where
  floor : Filing shop.stores
  products : shop.products.All fun k p => p.id = k
  customers : shop.customers.All fun k c => c.id = k
  baskets : shop.baskets.All fun k b => b.id = k

theorem filed_empty : empty.Filed :=
  ⟨Filing.empty, Keyed.All.empty _, Keyed.All.empty _, Keyed.All.empty _⟩

/-- New counts leave every inventory where it is. -/
theorem Filed.recount {shop : Shop} (h : shop.Filed) (n : Inventory → Int) :
    (shop.recount n).Filed := by
  refine ⟨⟨?_, ?_, ?_⟩, h.products, h.customers, h.baskets⟩
  · refine h.floor.filed.mapValues fun k s hs => ⟨hs.1, ?_⟩
    exact ⟨hs.2.aisles, hs.2.inventory.mapValues fun _ _ hi => hi, hs.2.devices⟩
  · refine h.floor.inventory.of_entries fun k s' hs' => ?_
    rcases Option.map_eq_some_iff.1 ((Keyed.get?_mapValues _ _ _).symm.trans hs') with ⟨s, hs, rfl⟩
    exact ⟨s, hs, fun i hi => (Keyed.contains_mapValues _ _ _).symm.trans hi⟩
  · refine h.floor.devices.of_entries fun k s' hs' => ?_
    rcases Option.map_eq_some_iff.1 ((Keyed.get?_mapValues _ _ _).symm.trans hs') with ⟨s, hs, rfl⟩
    exact ⟨s, hs, fun i hi => hi⟩

end Shop

end Shopfloor
