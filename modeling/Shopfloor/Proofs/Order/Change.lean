import Shopfloor.Proofs.Order.Alike
/-!
# Changes of Alike Shops

Every change of a shop, made to two alike shops, leaves them alike.

A change is made of operations on maps, and each of these acts on lookups. So
there is one lemma for each change, and it follows the definition of the change.
No change asks where in a map an entry stands.

## Theorems

* `Alike.putStore`, `Alike.putInventory`, `Alike.putBasket`: A record is written back.
* `Alike.relist`, `Alike.carryBasket`: Customers and baskets go from list to list.
* `Alike.without`: A store closes.
* `Alike.recount`, `Alike.emptied`: New counts, and a basket that is emptied.
-/

namespace Shopfloor

namespace Keyed

variable {m m' : Keyed Listing}

theorem Reordered.enroll (h : m.Reordered (· = ·) m') (id : String) :
    (m.enroll id).Reordered (· = ·) (m'.enroll id) := by
  unfold Keyed.enroll
  rw [h.contains_eq id]
  split
  · exact h
  · exact h.insert id rfl

theorem Reordered.strike (h : m.Reordered (· = ·) m') (id : String) :
    (m.strike id).Reordered (· = ·) (m'.strike id) := by
  unfold Keyed.strike
  rw [h.get?_eq id]
  split
  · exact h.erase id
  · exact h

end Keyed

namespace Store

variable {s s' : Store}

theorem Alike.withAisles (h : s.Alike s') {aisles aisles' : Keyed Aisle}
    (ha : aisles.Reordered Aisle.Alike aisles') :
    ({ s with aisles := aisles } : Store).Alike { s' with aisles := aisles' } :=
  { h with aisles := ha }

theorem Alike.withInventory (h : s.Alike s') {inventory inventory' : Keyed Inventory}
    (hi : inventory.Reordered (· = ·) inventory') :
    ({ s with inventory := inventory } : Store).Alike { s' with inventory := inventory' } :=
  { h with inventory := hi }

theorem Alike.withDevices (h : s.Alike s') {devices devices' : Keyed Device}
    (hd : devices.Reordered (· = ·) devices') :
    ({ s with devices := devices } : Store).Alike { s' with devices := devices' } :=
  { h with devices := hd }

theorem Alike.admitCustomer (h : s.Alike s') (id : String) :
    (s.admitCustomer id).Alike (s'.admitCustomer id) := by
  rw [admitCustomer_eq, admitCustomer_eq]
  exact { h with customers := h.customers.enroll id }

theorem Alike.dismissCustomer (h : s.Alike s') (id : String) :
    (s.dismissCustomer id).Alike (s'.dismissCustomer id) := by
  rw [dismissCustomer_eq, dismissCustomer_eq]
  exact { h with customers := h.customers.strike id }

theorem Alike.admitBasket (h : s.Alike s') (id : String) :
    (s.admitBasket id).Alike (s'.admitBasket id) := by
  rw [admitBasket_eq, admitBasket_eq]
  exact { h with baskets := h.baskets.enroll id }

theorem Alike.dismissBasket (h : s.Alike s') (id : String) :
    (s.dismissBasket id).Alike (s'.dismissBasket id) := by
  rw [dismissBasket_eq, dismissBasket_eq]
  exact { h with baskets := h.baskets.strike id }

end Store

namespace Shop

variable {shop shop' : Shop}

theorem Alike.putStore (h : shop.Alike shop') {s s' : Store} (hs : s.Alike s') :
    (shop.putStore s).Alike (shop'.putStore s') := by
  unfold Shop.putStore
  rw [hs.id]
  exact { h with stores := h.stores.insert s'.id hs }

theorem Alike.putInventory (h : shop.Alike shop') (i : Inventory) :
    (shop.putInventory i).Alike (shop'.putInventory i) :=
  { h with
    stores := h.stores.adjust i.spot.store fun _ _ hs =>
      hs.withInventory (hs.inventory.adjust i.id fun _ _ _ => rfl) }

theorem Alike.putBasket (h : shop.Alike shop') {b b' : Basket} (hb : b.Alike b') :
    (shop.putBasket b).Alike (shop'.putBasket b') := by
  unfold Shop.putBasket
  rw [hb.id]
  exact { h with baskets := h.baskets.adjust b'.id fun _ _ _ => hb }

theorem Alike.relist {stores stores' : Keyed Store} (h : stores.Reordered Store.Alike stores')
    (c : Customer) (store : String) :
    (relist stores c store).Reordered Store.Alike (Shop.relist stores' c store) := by
  unfold Shop.relist
  refine Keyed.Reordered.adjust ?_ store fun _ _ hs => hs.admitCustomer c.id
  cases c.spot with
  | none => exact h
  | some previous =>
      dsimp only
      split
      · exact h.adjust previous.store fun _ _ hs => hs.dismissCustomer c.id
      · exact h

/-- A basket is carried to a store, be the store there or not. -/
theorem Alike.carryBasket (h : shop.Alike shop') {b b' : Basket} (hb : b.Alike b')
    (store : String) : (shop.carryBasket b store).Alike (shop'.carryBasket b' store) := by
  -- First it comes off the list it was on, in both shops the list of the same store.
  have hleft : (unlisted shop.stores b).Reordered Store.Alike (unlisted shop'.stores b') := by
    unfold unlisted
    rw [hb.store, hb.id]
    cases b'.store with
    | none => exact h.stores
    | some previous => exact h.stores.adjust previous fun _ _ hs => hs.dismissBasket b'.id
  rw [carryBasket_eq, carryBasket_eq, hb.store, hb.id, h.stores.contains_eq store]
  split
  · exact h
  · split
    · exact { h with
        stores := hleft.adjust store fun _ _ hs => hs.admitBasket b'.id
        baskets := h.baskets.adjust b'.id fun _ _ hv => { hv with store := rfl } }
    · exact { h with
        stores := hleft
        baskets := h.baskets.adjust b'.id fun _ _ hv => { hv with store := rfl } }

theorem Alike.without (h : shop.Alike shop') {s s' : Store} (hs : s.Alike s') :
    (shop.without s).Alike (shop'.without s') := by
  unfold Shop.without
  refine ⟨?_, h.products, ?_, ?_, h.events⟩
  · rw [hs.id]
    exact h.stores.erase s'.id
  · refine h.customers.mapValues fun k c c' _ _ hc => ?_
    -- Whether somebody is on the list of the store that closes is a lookup.
    rw [hc, hs.id, hs.customers.get?_eq k]
  · refine h.baskets.mapValues fun k b b' _ _ hb => ?_
    rw [hb.store, hs.id]
    split
    · exact { hb with store := rfl }
    · exact hb

/-- The same new counts leave alike shops alike. -/
theorem Alike.recount (h : shop.Alike shop') {n n' : Inventory → Int} (hn : ∀ i, n i = n' i) :
    (shop.recount n).Alike (shop'.recount n') := by
  refine { h with stores := h.stores.mapValues fun k s s' _ _ hs => ?_ }
  refine hs.withInventory (hs.inventory.mapValues fun x i i' _ _ hi => ?_)
  rw [hi, hn]

/-- A basket that is emptied gives the same units back to the same inventories. -/
theorem Alike.emptied (h : shop.Alike shop') (hf : Filing shop.stores) {b b' : Basket}
    (hb : b.Alike b') : (shop.emptied b).Alike (shop'.emptied b') := by
  have hn : ∀ i, shop.refilled (shop.standing b) b.quantity i =
      shop'.refilled (shop'.standing b') b'.quantity i := by
    intro i
    unfold refilled
    rw [h.standing_eq hb, h.choose_eq hf, hb.quantity_eq]
  unfold Shop.emptied restocked
  exact (h.recount hn).putBasket { hb with lines := Keyed.reordered_empty _ }

end Shop

end Shopfloor
