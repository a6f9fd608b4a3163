import Shopfloor.Proofs.Filing
/-!
# Searching the Stores

What a search through all stores finds.

An inventory is found by asking every store in turn, and the first that has the
id answers. Where stores are filed there is at most one that can, so the search
finds an inventory exactly if it is kept, that is, if it stands in the store
that it names. The same holds of devices. How the stores are ordered does not
enter into any statement here.

Choosing an inventory of a product is described by what it can return. That it
returns the one with the least id is not needed for anything that changes the
shop, only that it returns one of the product.

## Main definitions

* `Shop.Keeps`, `Shop.KeepsDevice`: An inventory, or a device, stands where it says.

## Theorems

* `findSome?_values_eq_some_iff`: A search that can succeed in one place only.
* `findSome?_find?_eq_some_iff`, `findSome?_stores_eq_some_iff`: The same of what stores own.
* `inventory?_eq_some_iff`, `inventory?_eq_none_iff`: Searching for an inventory.
* `device?_eq_some_iff`, `device?_eq_none_iff`: Searching for a device.
* `mem_stockOf_iff`: The inventories of a product.
* `choose_mem`: What is chosen is among them.
-/

namespace Shopfloor

namespace Keyed

variable {α β : Type}

theorem findSome?_values_eq_none_iff (m : Keyed α) (g : α → Option β) :
    m.values.findSome? g = none ↔ ∀ k v, m.get? k = some v → g v = none := by
  rw [List.findSome?_eq_none_iff]
  constructor
  · intro h k v hk
    exact h v ((mem_values_iff m v).2 ⟨k, hk⟩)
  · intro h v hv
    rcases (mem_values_iff m v).1 hv with ⟨k, hk⟩
    exact h k v hk

/-- A search that no two entries can both answer finds what one of them answers. -/
theorem findSome?_values_eq_some_iff (m : Keyed α) (g : α → Option β) (w : β)
    (hone : ∀ k k' v v' w w', m.get? k = some v → m.get? k' = some v' → g v = some w →
      g v' = some w' → k = k') :
    m.values.findSome? g = some w ↔ ∃ k v, m.get? k = some v ∧ g v = some w := by
  constructor
  · intro h
    rcases List.exists_of_findSome?_eq_some h with ⟨v, hv, hg⟩
    rcases (mem_values_iff m v).1 hv with ⟨k, hk⟩
    exact ⟨k, v, hk, hg⟩
  · rintro ⟨k, v, hk, hg⟩
    cases hfind : m.values.findSome? g with
    | none =>
        rw [(findSome?_values_eq_none_iff m g).1 hfind k v hk] at hg
        cases hg
    | some w' =>
        -- Whoever answered first is the one that answers.
        rcases List.exists_of_findSome?_eq_some hfind with ⟨v', hv', hg'⟩
        rcases (mem_values_iff m v').1 hv' with ⟨k', hk'⟩
        have hkk := hone k' k v' v w' w hk' hk hg' hg
        rw [hkk, hk, Option.some.injEq] at hk'
        rw [← hg', ← hk', hg]

end Keyed

namespace Shop

variable {shop : Shop}

/-- An inventory stands in the store that it names. -/
def Keeps (shop : Shop) (i : Inventory) : Prop :=
  ∃ s, shop.stores.get? i.spot.store = some s ∧ s.inventory.get? i.id = some i

/-- A device stands in the store that it names. -/
def KeepsDevice (shop : Shop) (d : Device) : Prop :=
  ∃ s, shop.stores.get? d.spot.store = some s ∧ s.devices.get? d.id = some d

theorem inventory?_eq_none_iff (k : String) :
    shop.inventory? (some k) = none ↔
      ∀ x s, shop.stores.get? x = some s → s.inventory.get? k = none :=
  Keyed.findSome?_values_eq_none_iff _ _

theorem device?_eq_none_iff (k : String) :
    shop.device? (some k) = none ↔
      ∀ x s, shop.stores.get? x = some s → s.devices.get? k = none :=
  Keyed.findSome?_values_eq_none_iff _ _

/-- What is found in a store that is filed stands where it says. -/
theorem keeps_of_get? (hf : Filing shop.stores) {x k : String} {s : Store} {i : Inventory}
    (hs : shop.stores.get? x = some s) (hi : s.inventory.get? k = some i) :
    shop.Keeps i ∧ i.id = k ∧ i.spot.store = x := by
  rcases hf.filed x s hs with ⟨hid, hfiled⟩
  rcases hfiled.inventory k i hi with ⟨hik, hstore, -⟩
  have hx : i.spot.store = x := hstore.trans hid
  refine ⟨⟨s, ?_, ?_⟩, hik, hx⟩
  · rw [hx]
    exact hs
  · rw [hik]
    exact hi

theorem keepsDevice_of_get? (hf : Filing shop.stores) {x k : String} {s : Store} {d : Device}
    (hs : shop.stores.get? x = some s) (hd : s.devices.get? k = some d) :
    shop.KeepsDevice d ∧ d.id = k ∧ d.spot.store = x := by
  rcases hf.filed x s hs with ⟨hid, hfiled⟩
  rcases hfiled.devices k d hd with ⟨hdk, hstore, -⟩
  have hx : d.spot.store = x := hstore.trans hid
  refine ⟨⟨s, ?_, ?_⟩, hdk, hx⟩
  · rw [hx]
    exact hs
  · rw [hdk]
    exact hd

/-- A search for what stores own finds what any of them has under the id, if no two own the same. -/
theorem findSome?_find?_eq_some_iff {α : Type} {stores : Keyed Store} {f : Store → Keyed α}
    (happart : stores.Apart f) (id : Option String) (a : α) :
    stores.values.findSome? (fun s => (f s).find? id) = some a ↔
      ∃ x s, stores.get? x = some s ∧ (f s).find? id = some a := by
  -- No two stores can answer, so it does not matter which is asked first.
  refine Keyed.findSome?_values_eq_some_iff _ _ a fun x x' s s' a a' hs hs' ha ha' => ?_
  rcases (Keyed.find?_eq_some_iff _ _ _).1 ha with ⟨k, rfl, hk⟩
  exact happart x x' s s' k hs hs' ((Keyed.contains_iff _ _).2 ⟨a, hk⟩)
    ((Keyed.contains_iff _ _).2 ⟨a', ha'⟩)

/-- What stores own is found under an id exactly if it stands in the store that it names and has
    the id, if no two stores own the same. -/
theorem findSome?_stores_eq_some_iff {α : Type} {stores : Keyed Store} (f : Store → Keyed α)
    (id home : α → String) (happart : stores.Apart f)
    (hself : ∀ x k s a, stores.get? x = some s → (f s).get? k = some a → id a = k ∧ home a = x)
    (k : String) (a : α) :
    stores.values.findSome? (fun s => (f s).find? (some k)) = some a ↔
      (∃ s, stores.get? (home a) = some s ∧ (f s).get? (id a) = some a) ∧ id a = k := by
  refine (findSome?_find?_eq_some_iff happart (some k) a).trans ⟨?_, ?_⟩
  · rintro ⟨x, s, hs, ha⟩
    rcases hself x k s a hs ha with ⟨hid, hhome⟩
    exact ⟨⟨s, hhome.symm ▸ hs, hid.symm ▸ ha⟩, hid⟩
  · rintro ⟨⟨s, hs, ha⟩, rfl⟩
    exact ⟨home a, s, hs, ha⟩

/-- An inventory is found under an id exactly if it is kept and has the id. -/
theorem inventory?_eq_some_iff (hf : Filing shop.stores) (k : String) (i : Inventory) :
    shop.inventory? (some k) = some i ↔ shop.Keeps i ∧ i.id = k :=
  findSome?_stores_eq_some_iff Store.inventory Inventory.id (fun i => i.spot.store) hf.inventory
    (fun _ _ _ _ hs hi => (keeps_of_get? hf hs hi).2) k i

/-- A device is found under an id exactly if it stands where it says and has the id. -/
theorem device?_eq_some_iff (hf : Filing shop.stores) (k : String) (d : Device) :
    shop.device? (some k) = some d ↔ shop.KeepsDevice d ∧ d.id = k :=
  findSome?_stores_eq_some_iff Store.devices Device.id (fun d => d.spot.store) hf.devices
    (fun _ _ _ _ hs hd => (keepsDevice_of_get? hf hs hd).2) k d

/-- Inventories that are kept are told apart by their ids. -/
theorem Keeps.eq_of_id_eq (hf : Filing shop.stores) {i j : Inventory} (hi : shop.Keeps i)
    (hj : shop.Keeps j) (hid : i.id = j.id) : i = j := by
  have hfi := (inventory?_eq_some_iff hf i.id i).2 ⟨hi, rfl⟩
  have hfj := (inventory?_eq_some_iff hf i.id j).2 ⟨hj, hid.symm⟩
  rw [hfi] at hfj
  exact Option.some.inj hfj

/-- The inventories of a product are those that are kept. -/
theorem mem_stockOf_iff (hf : Filing shop.stores) (p : String) (i : Inventory) :
    i ∈ shop.stockOf p ↔ shop.Keeps i ∧ i.product = p := by
  unfold stockOf
  rw [List.mem_mergeSort, List.mem_filter, List.mem_flatMap, beq_iff_eq]
  refine and_congr_left fun _ => ⟨?_, ?_⟩
  · rintro ⟨s, hs, hi⟩
    rcases (Keyed.mem_values_iff _ _).1 hs with ⟨x, hx⟩
    rcases (Keyed.mem_values_iff _ _).1 hi with ⟨k, hk⟩
    exact (keeps_of_get? hf hx hk).1
  · rintro ⟨s, hs, hi⟩
    exact ⟨s, (Keyed.mem_values_iff _ _).2 ⟨_, hs⟩, (Keyed.mem_values_iff _ _).2 ⟨_, hi⟩⟩

/-- What is chosen is one of the inventories that were to choose from. -/
theorem choose_mem {stock : List Inventory} {spot : Option AisleSpot} {i : Inventory}
    (h : choose stock spot = some i) : i ∈ stock := by
  unfold choose at h
  split at h
  · rename_i j hj
    rcases Option.bind_eq_some_iff.1 hj with ⟨s, -, hfind⟩
    rw [← Option.some.inj h]
    exact List.mem_of_find?_eq_some hfind
  · exact List.mem_of_head? h

/-- The inventory that is chosen for a product is kept, and it is one of the product. -/
theorem choose_keeps (hf : Filing shop.stores) {p : String} {spot : Option AisleSpot}
    {i : Inventory} (h : choose (shop.stockOf p) spot = some i) : shop.Keeps i ∧ i.product = p :=
  (mem_stockOf_iff hf p i).1 (choose_mem h)

end Shop

end Shopfloor
