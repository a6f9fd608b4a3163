import Shopfloor.Proofs.Order.Agree
/-!
# Provisioning in Alike Shops

Each act that registers something new, in two shops that differ in order.

What an act looks at is alike in both shops, so its checks come out the same and
it registers the same record. Only the search for an id in all stores needs more
than that: it finds the same in both shops because both are filed.

## Theorems

* `Store.Alike.getAisle`, `Aisle.Alike.addShelf`: Parts of stores that are alike.
* `theStore_agree`, `theInventory_agree`: What is looked up in alike shops.
* `openStore_agree`, `openAisle_agree`, `putUpShelf_agree`: The layout.
* `addProduct_agree`, `addInventory_agree`: The catalogue and the stock.
* `addCustomer_agree`, `addBasket_agree`: Shoppers.
* `installDevice_agree`: Devices.
-/

namespace Shopfloor

open Act

theorem rel_of_eq {α : Type} {x y : Option α} (h : x = y) : Option.Rel (· = ·) x y := by
  subst h
  cases x with
  | none => exact .none
  | some a => exact .some rfl

section Records

variable {a a' : Aisle} {s s' : Store}

theorem Aisle.Alike.getShelf_eq (h : a.Alike a') (id : Option String) :
    a.getShelf id = a'.getShelf id := by
  unfold Aisle.getShelf
  rw [h.shelves.find?_eq, h.number]

/-- What takes something up under a key ends the same in maps that differ in order. -/
theorem sameEnd_take {α β γ : Type} {R : α → β → Prop} {S : γ → γ → Prop} {m : Keyed α}
    {m' : Keyed β} (hm : m.Reordered R m') (k : String) {e e' : Fault} (he : e = e') {x x' : γ}
    (hx : S x x') :
    SameEnd S (if m.contains k then .error e else .ok x)
      (if m'.contains k then .error e' else .ok x') := by
  rw [hm.contains_eq k, he]
  split
  · exact .error e'
  · exact .ok hx

theorem Aisle.Alike.addShelf (h : a.Alike a') (b : Shelf) :
    SameEnd Aisle.Alike (a.addShelf b) (a'.addShelf b) := by
  refine sameEnd_take h.shelves b.id (by rw [h.number]) ?_
  exact { h with shelves := h.shelves.insert b.id rfl }

theorem Store.Alike.getAisle (h : s.Alike s') (number : Option String) :
    SameEnd Aisle.Alike (s.getAisle number) (s'.getAisle number) := by
  unfold Store.getAisle
  rw [h.id]
  have hrel := h.aisles.find? number
  generalize s.aisles.find? number = x at hrel
  generalize s'.aisles.find? number = y at hrel
  cases hrel with
  | none => exact .error _
  | some ha => exact .ok ha

theorem Store.Alike.getShelf (h : s.Alike s') (number id : Option String) :
    SameEnd (· = ·) (s.getShelf number id) (s'.getShelf number id) := by
  unfold Store.getShelf
  have hend := h.getAisle number
  generalize s.getAisle number = x at hend
  generalize s'.getAisle number = y at hend
  cases hend with
  | @ok a a' ha =>
      change SameEnd (· = ·) (a.getShelf id) (a'.getShelf id)
      rw [ha.getShelf_eq id]
      exact sameEnd_refl _
  | error e => exact .error e

theorem Store.Alike.addAisle (h : s.Alike s') (a : Aisle) :
    SameEnd Store.Alike (s.addAisle a) (s'.addAisle a) := by
  refine sameEnd_take h.aisles a.number (by rw [h.id]) ?_
  exact h.withAisles (h.aisles.insert a.number (Aisle.Alike.refl a))

theorem Store.Alike.addInventory (h : s.Alike s') (i : Inventory) :
    SameEnd Store.Alike (s.addInventory i) (s'.addInventory i) :=
  sameEnd_take h.inventory i.id rfl (h.withInventory (h.inventory.insert i.id rfl))

theorem Store.Alike.addDevice (h : s.Alike s') (d : Device) :
    SameEnd Store.Alike (s.addDevice d) (s'.addDevice d) :=
  sameEnd_take h.devices d.id rfl (h.withDevices (h.devices.insert d.id rfl))

end Records

namespace Shop

variable {shop shop' : Shop} (action : String)

theorem theStore_agree (h : shop.Alike shop') (id : Option String) :
    (theStore action id).Agree shop (theStore action id) shop' (Seen Store.Alike shop shop') :=
  agree_bind_get (agree_found h (h.stores.find? id) action .store id)

theorem theProduct_agree (h : shop.Alike shop') (id : Option String) :
    (theProduct action id).Agree shop (theProduct action id) shop' (Seen (· = ·) shop shop') :=
  agree_bind_get (agree_found h (h.products.find? id) action .product id)

theorem theCustomer_agree (h : shop.Alike shop') (id : Option String) :
    (theCustomer action id).Agree shop (theCustomer action id) shop' (Seen (· = ·) shop shop') :=
  agree_bind_get (agree_found h (h.customers.find? id) action .customer id)

theorem theBasket_agree (h : shop.Alike shop') (id : Option String) :
    (theBasket action id).Agree shop (theBasket action id) shop' (Seen Basket.Alike shop shop') :=
  agree_bind_get (agree_found h (h.baskets.find? id) action .basket id)

theorem openStore_agree (h : shop.Alike shop') (id name address : Option String) :
    (openStore action id name address).Agree shop (openStore action id name address) shop'
      (Done Store.Alike) := by
  unfold openStore
  refine agree_bind_get (agree_unless_taken h (h.stores.find? id) ?_)
  -- Each of the three texts has to be given, and nothing more is looked up.
  cases id with
  | none => exact agree_throw h _
  | some k =>
      cases address with
      | none => exact agree_throw h _
      | some a =>
          cases name with
          | none => exact agree_throw h _
          | some n => exact agree_write (Store.Alike.refl _) (h.putStore (Store.Alike.refl _))

/-- Reading where an aisle lies does not look at the shop. -/
theorem agree_place (h : shop.Alike shop') (location : Option String) {α : Type}
    {Q : α → Shop → α → Shop → Prop} {rest rest' : Option AisleLocation → Act α}
    (hrest : ∀ place, (rest place).Agree shop (rest' place) shop' Q) :
    (match location with
      | some l =>
        (some <$> Act.ofExcept (Choice.require (α := AisleLocation) action (some l))) >>= rest
      | none => pure none >>= rest).Agree shop
      (match location with
      | some l =>
        (some <$> Act.ofExcept (Choice.require (α := AisleLocation) action (some l))) >>= rest'
      | none => pure none >>= rest') shop' Q := by
  cases location with
  | none => exact agree_bind_pure (hrest none)
  | some l =>
      dsimp only
      rw [map_eq_pure_bind, bind_assoc, bind_assoc]
      exact agree_bind_check h (onlyChecks_ofExcept _) fun place => hrest (some place)

theorem openAisle_agree (h : shop.Alike shop')
    (store number name description location : Option String) :
    (openAisle action store number name description location).Agree shop
      (openAisle action store number name description location) shop' (Done Aisle.Alike) := by
  unfold openAisle
  refine agree_place action h location fun place => ?_
  refine agree_bind_look (theStore_agree action h store) fun s s' hs => ?_
  cases number with
  | none => exact agree_throw h _
  | some n =>
      cases name with
      | none => exact agree_throw h _
      | some title =>
          refine agree_bind_ofExcept h (hs.addAisle _) fun t t' ht => ?_
          exact agree_write (Aisle.Alike.refl _) (h.putStore ht)

theorem putUpShelf_agree (h : shop.Alike shop')
    (store number id name level description temperature : Option String) :
    (putUpShelf action store number id name level description temperature).Agree shop
      (putUpShelf action store number id name level description temperature) shop'
      (Done (· = ·)) := by
  unfold putUpShelf
  refine agree_bind_check h (onlyChecks_ofExcept _) fun height => ?_
  refine agree_bind_check h (onlyChecks_ofExcept _) fun warmth => ?_
  refine agree_bind_look (theStore_agree action h store) fun s s' hs => ?_
  refine agree_bind_ofExcept h (hs.getAisle number) fun a a' ha => ?_
  cases id with
  | none => exact agree_throw h _
  | some i =>
      cases name with
      | none => exact agree_throw h _
      | some title =>
          refine agree_bind_ofExcept h (ha.addShelf _) fun b b' hb => ?_
          -- The aisle is written back under its number, which is the same in both.
          refine agree_write rfl (h.putStore (hs.withAisles ?_))
          rw [hb.number]
          exact hs.aisles.insert b'.number hb

theorem chargeable_onlyChecks (price : Option Binary64) : (chargeable action price).OnlyChecks := by
  unfold chargeable
  cases price with
  | none => exact onlyChecks_fail _ _
  | some x => exact onlyChecks_unless _ action _ _

theorem addProduct_agree (h : shop.Alike shop') (id name description size category : Option String)
    (price : Option Binary64) (temperature : Option String) :
    (addProduct action id name description size category price temperature).Agree shop
      (addProduct action id name description size category price temperature) shop'
      (Done (· = ·)) := by
  unfold addProduct
  refine agree_bind_check h (chargeable_onlyChecks action price) fun x => ?_
  refine agree_bind_check h (onlyChecks_ofExcept _) fun warmth => ?_
  refine agree_bind_get (agree_unless_taken h (h.products.find? id) ?_)
  cases id with
  | none => exact agree_throw h _
  | some i =>
      cases name with
      | none => exact agree_throw h _
      | some title => exact agree_write rfl { h with products := h.products.insert i rfl }

theorem startingCount_onlyChecks (count : Option Int) :
    (startingCount action count).OnlyChecks := by
  unfold startingCount
  cases count with
  | none => exact onlyChecks_fail _ _
  | some n => exact onlyChecks_unless _ action _ _

theorem roomFor_onlyChecks (capacity : Option Int) (count : Int) :
    (roomFor action capacity count).OnlyChecks := by
  unfold roomFor
  cases capacity with
  | none => exact onlyChecks_fail _ _
  | some n => exact onlyChecks_unless _ action _ _

theorem inventoryType_onlyChecks (type : Option String) :
    (inventoryType action type).OnlyChecks := by
  unfold inventoryType
  cases type with
  | none => exact onlyChecks_pure _
  | some t => exact onlyChecks_ofExcept _

theorem addCustomer_agree (h : shop.Alike shop')
    (id firstName lastName type email account : Option String) :
    (addCustomer action id firstName lastName type email account).Agree shop
      (addCustomer action id firstName lastName type email account) shop' (Done (· = ·)) := by
  unfold addCustomer
  refine agree_bind_check h (onlyChecks_ofExcept _) fun sort => ?_
  refine agree_bind_get (agree_unless_taken h (h.customers.find? id) ?_)
  rcases id with _ | i
  · exact agree_throw h _
  rcases firstName with _ | f
  · exact agree_throw h _
  rcases lastName with _ | l
  · exact agree_throw h _
  rcases email with _ | e
  · exact agree_throw h _
  rcases account with _ | a
  · exact agree_throw h _
  exact agree_write rfl { h with customers := h.customers.insert i rfl }

theorem addBasket_agree (h : shop.Alike shop') (id : Option String) :
    (addBasket action id).Agree shop (addBasket action id) shop' (Done Basket.Alike) := by
  unfold addBasket
  refine agree_bind_get (agree_unless_taken h (h.baskets.find? id) ?_)
  cases id with
  | none => exact agree_throw h _
  | some i =>
      exact agree_write (Basket.Alike.refl _)
        { h with baskets := h.baskets.insert i (Basket.Alike.refl _) }

section Filed

variable (hf : Filing shop.stores) (hf' : Filing shop'.stores)
include hf hf'

theorem theInventory_agree (h : shop.Alike shop') (id : Option String) :
    (theInventory action id).Agree shop (theInventory action id) shop'
      (Seen (· = ·) shop shop') := by
  refine agree_bind_get (agree_found h ?_ action .inventory id)
  exact rel_of_eq (h.inventory?_eq hf hf' id)

theorem theDevice_agree (h : shop.Alike shop') (id : Option String) :
    (theDevice action id).Agree shop (theDevice action id) shop' (Seen (· = ·) shop shop') := by
  refine agree_bind_get (agree_found h ?_ action .device id)
  exact rel_of_eq (h.device?_eq hf hf' id)

theorem addInventory_agree (h : shop.Alike shop') (id store number shelf : Option String)
    (capacity count : Option Int) (product type : Option String) :
    (addInventory action id store number shelf capacity count product type).Agree shop
      (addInventory action id store number shelf capacity count product type) shop'
      (Done (· = ·)) := by
  unfold addInventory
  refine agree_bind_look (theStore_agree action h store) fun s s' hs => ?_
  refine agree_bind_ofExcept h (hs.getAisle number) fun a a' ha => ?_
  rw [ha.getShelf_eq shelf]
  refine agree_bind_check h (onlyChecks_ofExcept _) fun board => ?_
  refine agree_bind_check h (startingCount_onlyChecks action count) fun units => ?_
  refine agree_bind_check h (roomFor_onlyChecks action capacity units) fun most => ?_
  refine agree_bind_get (agree_bind_get ?_)
  rw [h.products.find?_eq]
  -- Both catalogues name the same product.
  cases shop'.products.find? product with
  | none => exact agree_bind_fail h _ _ _ _
  | some item =>
      refine agree_bind_pure ?_
      refine agree_bind_check h (inventoryType_onlyChecks action type) fun sort => ?_
      refine agree_bind_get (agree_unless_taken h (rel_of_eq (h.inventory?_eq hf hf' id)) ?_)
      cases id with
      | none => exact agree_throw h _
      | some i =>
          -- The record names store and aisle by ids, so it is the same record.
          rw [hs.id, ha.number]
          refine agree_bind_ofExcept h (hs.addInventory _) fun t t' ht => ?_
          exact agree_write rfl (h.putStore ht)

theorem installDevice_agree (h : shop.Alike shop') (id name : Option String) (type : String)
    (store number : Option String) :
    (installDevice action id name type store number).Agree shop
      (installDevice action id name type store number) shop' (Done (· = ·)) := by
  unfold installDevice
  refine agree_bind_check h (onlyChecks_ofExcept _) fun kind => ?_
  refine agree_bind_look (theStore_agree action h store) fun s s' hs => ?_
  refine agree_bind_ofExcept h (hs.getAisle number) fun a a' ha => ?_
  refine agree_bind_get (agree_unless_taken h (rel_of_eq (h.device?_eq hf hf' id)) ?_)
  cases id with
  | none => exact agree_throw h _
  | some i =>
      cases name with
      | none => exact agree_throw h _
      | some title =>
          -- The record names store and aisle by ids, so it is the same record.
          rw [hs.id, ha.number]
          refine agree_bind_ofExcept h (hs.addDevice _) fun t t' ht => ?_
          exact agree_write rfl (h.putStore ht)

end Filed

end Shop

end Shopfloor
