import Shopfloor.Proofs.Invariant
/-!
# Steps Keep Records Filed

No operation puts a record under an id that is not its own, and none lets the
same inventory or device stand in two stores.

The second is the reason for the search over all stores before an inventory or
a device is taken up. A store alone would accept an id that another store has;
the search refuses it, and what it did not find is in no store.

## Theorems

* `Sound.store_self`, `Sound.basket_self`, `Sound.customer_self`: A record is found under its id.
* `Placed.spot_store`: A customer stands in a store that is there.
* `Sound.putInventory_eq_recount`: Writing back an inventory that was found.
* `Filed.openStore` to `Filed.afterAssign`: What each change of the shop keeps.
* `Step.filed`: Every step keeps records filed.
-/

namespace Shopfloor

namespace Shop

variable {shop shop' : Shop}

theorem Sound.store_self (h : shop.Sound) {k : String} {s : Store}
    (hs : shop.stores.get? k = some s) : s.id = k ∧ shop.stores.get? s.id = some s := by
  have hid := (h.filed.floor.filed k s hs).1
  rw [hid]
  exact ⟨rfl, hs⟩

theorem Sound.basket_self (h : shop.Sound) {k : String} {b : Basket}
    (hb : shop.baskets.get? k = some b) : b.id = k ∧ shop.baskets.get? b.id = some b := by
  have hid := h.filed.baskets k b hb
  rw [hid]
  exact ⟨rfl, hb⟩

theorem Sound.customer_self (h : shop.Sound) {k : String} {c : Customer}
    (hc : shop.customers.get? k = some c) : c.id = k ∧ shop.customers.get? c.id = some c := by
  have hid := h.filed.customers k c hc
  rw [hid]
  exact ⟨rfl, hc⟩

/-- A customer who is registered stands in a store that is there. -/
theorem Placed.spot_store (h : shop.Placed) {k : String} {c : Customer}
    (hc : shop.customers.get? k = some c) (spot : AisleSpot) (hspot : c.spot = some spot) :
    ∃ s, shop.stores.get? spot.store = some s := by
  have hof : shop.spotOf k = some spot := by
    unfold spotOf
    rw [hc]
    exact hspot
  rcases h.standing k spot hof with ⟨s, hs, -⟩
  exact ⟨s, hs⟩

/-- Writing back an inventory of the shop with another count is a recount. -/
theorem Sound.putInventory_eq_recount (h : shop.Sound) {i : Inventory} (hi : shop.Keeps i)
    (c : Int) :
    shop.putInventory { i with count := c } =
      shop.recount fun j => if j = i then c else j.count :=
  Shop.putInventory_eq_recount h.filed.floor hi c

/-- What the search for an id did not find is in no store. -/
theorem free_of_inventory?_eq_none {i : String} (hi : shop.inventory? (some i) = none) (k : String)
    (s : Store) (hs : shop.stores.get? k = some s) : s.inventory.contains i = false :=
  (Keyed.contains_eq_false_iff _ _).2 ((inventory?_eq_none_iff i).1 hi k s hs)

theorem free_of_device?_eq_none {i : String} (hi : shop.device? (some i) = none) (k : String)
    (s : Store) (hs : shop.stores.get? k = some s) : s.devices.contains i = false :=
  (Keyed.contains_eq_false_iff _ _).2 ((device?_eq_none_iff i).1 hi k s hs)

/-- A basket may be written back under its id whatever became of it. -/
theorem Filed.putBasket (h : shop.Filed) (b : Basket) : (shop.putBasket b).Filed := by
  refine ⟨h.floor, h.products, h.customers, h.baskets.mapValues fun k v hv => ?_⟩
  by_cases hk : k = b.id
  · rw [if_pos hk]
    exact hk.symm
  · rw [if_neg hk]
    exact hv

/-! ### What each change does -/

namespace Filed

theorem withStores (h : shop.Filed) {stores : Keyed Store} (hfloor : Filing stores) :
    ({ shop with stores := stores } : Shop).Filed :=
  ⟨hfloor, h.products, h.customers, h.baskets⟩

/-- An empty store has nothing that another could have. -/
theorem openStore (h : shop.Filed) (k name address : String) :
    (shop.putStore (.bare k address name)).Filed := by
  have hnone : ∀ i, ¬(Keyed.empty : Keyed Inventory).contains i = true := nofun
  have hnone' : ∀ i, ¬(Keyed.empty : Keyed Device).contains i = true := nofun
  exact h.withStores (h.floor.insert (Store.filed_bare _ _ _)
    (fun i hi => absurd hi (hnone i)) fun i hi => absurd hi (hnone' i))

/-- A store is written over another that has the same inventories and devices. -/
theorem rewriteStore (h : shop.Filed) {k : String} {s s' : Store}
    (hs : shop.stores.get? k = some s) (hs' : s'.Filed) (hid : s'.id = s.id)
    (hinventory : s'.inventory = s.inventory) (hdevices : s'.devices = s.devices) :
    (shop.putStore s').Filed := by
  refine h.withStores (h.floor.replace hs hs' hid (fun i hi => Or.inl ?_) fun i hi => Or.inl ?_)
  · exact hinventory ▸ hi
  · exact hdevices ▸ hi

theorem closeStore (h : shop.Filed) (s : Store) : (shop.without s).Filed := by
  refine ⟨h.floor.erase _, h.products, ?_, ?_⟩
  · refine h.customers.mapValues fun k c hc => ?_
    split <;> exact hc
  · refine h.baskets.mapValues fun k b hb => ?_
    split <;> exact hb

/-- An inventory is taken up whose id was in no store. -/
theorem addInventory (h : shop.Filed) {k i : String} {s : Store} {j : Inventory}
    (hs : shop.stores.get? k = some s) (hi : shop.inventory? (some i) = none)
    (hs' : ({ s with inventory := s.inventory.insert i j } : Store).Filed) :
    (shop.putStore { s with inventory := s.inventory.insert i j }).Filed := by
  refine h.withStores (h.floor.replace hs hs' rfl (fun x hx => ?_) fun _ => Or.inl)
  rcases (Keyed.contains_insert _ _ _ _).1 hx with rfl | hold
  · exact Or.inr (free_of_inventory?_eq_none hi)
  · exact Or.inl hold

/-- A device is installed whose id was in no store. -/
theorem installDevice (h : shop.Filed) {k i : String} {s : Store} {d : Device}
    (hs : shop.stores.get? k = some s) (hi : shop.device? (some i) = none)
    (hs' : ({ s with devices := s.devices.insert i d } : Store).Filed) :
    (shop.putStore { s with devices := s.devices.insert i d }).Filed := by
  refine h.withStores (h.floor.replace hs hs' rfl (fun _ => Or.inl) fun x hx => ?_)
  rcases (Keyed.contains_insert _ _ _ _).1 hx with rfl | hold
  · exact Or.inr (free_of_device?_eq_none hi)
  · exact Or.inl hold

theorem afterMove (h : shop.Filed) {c : Customer} {spot : AisleSpot} {s : Store}
    (hs : shop.stores.get? spot.store = some s) : (shop.afterMove c spot).Filed := by
  refine ⟨h.floor.of_floor (afterMove_floor h.baskets hs), ?_, ?_, ?_⟩
  all_goals rw [afterMove_eq h.baskets hs]
  · exact h.products
  · refine h.customers.mapValues fun k c' hc' => ?_
    split
    · rename_i hk
      exact hk.symm
    · exact hc'
  · refine h.baskets.mapValues fun k b hb => ?_
    split <;> exact hb

theorem afterAssign (h : shop.Filed) {c : Customer} {b : Basket}
    (hb : shop.baskets.get? b.id = some b)
    (hspot : ∀ spot, c.spot = some spot → ∃ s, shop.stores.get? spot.store = some s) :
    (shop.afterAssign c b).Filed := by
  refine ⟨h.floor.of_floor (afterAssign_floor hb hspot), ?_, ?_, ?_⟩
  all_goals rw [afterAssign_eq hb hspot]
  · exact h.products
  · exact h.customers.adjust fun c' hc' => hc'
  · exact h.baskets.adjust fun b' hb' => hb'

end Filed

/-- Units go between an inventory and a basket. -/
theorem Sound.filed_traded (h : shop.Sound) {i : Inventory} (hi : shop.Keeps i) (n : Int)
    (b : Basket) : ((shop.putInventory { i with count := n }).putBasket b).Filed := by
  rw [h.putInventory_eq_recount hi]
  exact (h.filed.recount _).putBasket b

/-- Every step keeps records filed. -/
theorem Step.filed {op : Operation} {r : Reply} (h : Step shop op r shop') (hsound : shop.Sound) :
    shop'.Filed := by
  have hf := hsound.filed
  have hstore : ∀ {k s}, shop.stores.get? k = some s → s.Filed := fun hs =>
    (hf.floor.filed _ _ hs).2
  cases h with
  | query _ => exact hf
  | openStore _ => exact hf.openStore _ _ _
  | updateStore _ _ hs hs' =>
      subst hs'
      exact hf.rewriteStore hs ⟨(hstore hs).aisles, (hstore hs).inventory, (hstore hs).devices⟩
        rfl rfl rfl
  | closeStore _ => exact hf.closeStore _
  | openAisle _ _ hs hn _ ha =>
      subst ha
      exact hf.rewriteStore hs ((hstore hs).addAisle hn rfl rfl) rfl rfl rfl
  | putUpShelf _ _ _ hs ha _ _ _ hb =>
      subst hb
      exact hf.rewriteStore hs ((hstore hs).addShelf ha rfl) rfl rfl rfl
  | addProduct _ _ _ _ _ _ _ _ hp =>
      subst hp
      exact ⟨hf.floor, hf.products.insert rfl, hf.customers, hf.baskets⟩
  | addInventory _ hs ha hb _ _ _ _ hi _ hj =>
      subst hj
      exact hf.addInventory hs hi ((hstore hs).addInventory ha hb rfl rfl)
  | adjustInventory hi _ _ hi' =>
      subst hi'
      rw [hsound.putInventory_eq_recount ((inventory?_eq_some_iff hf.floor _ _).1 hi).1]
      exact hf.recount _
  | addCustomer _ _ _ hc =>
      subst hc
      exact ⟨hf.floor, hf.products, hf.customers.insert rfl, hf.baskets⟩
  | moveCustomer _ hs _ => exact hf.afterMove (hsound.store_self hs).2
  | addBasket _ hb =>
      subst hb
      exact ⟨hf.floor, hf.products, hf.customers, hf.baskets.insert rfl⟩
  | assignBasket hc hb _ _ _ =>
      exact hf.afterAssign (hsound.basket_self hb).2 (hsound.placed.spot_store hc)
  | takeIntoBasket _ _ _ _ hi _ _ _ hi' _ =>
      subst hi'
      exact hsound.filed_traded (choose_keeps hf.floor hi).1 _ _
  | putBackFromBasket _ _ _ _ _ _ hi _ _ _ hi' _ =>
      subst hi'
      exact hsound.filed_traded (choose_keeps hf.floor hi).1 _ _
  | emptyBasket _ => exact (hf.recount _).putBasket _
  | installDevice _ hs ha hi _ hd =>
      subst hd
      exact hf.installDevice hs hi ((hstore hs).addDevice ha rfl rfl)
  | raiseEvent _ _ _ => exact ⟨hf.floor, hf.products, hf.customers, hf.baskets⟩
  | issueCommand _ _ _ _ => exact ⟨hf.floor, hf.products, hf.customers, hf.baskets⟩

end Shop

end Shopfloor
