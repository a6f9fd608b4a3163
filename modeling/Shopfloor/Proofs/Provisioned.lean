import Shopfloor.Proofs.History
/-!
# Provisioned Data

The part of every record that no later operation changes, and where it came
from.

Of most records only a little ever changes: the count of an inventory, the place
and the basket of a customer, the shelves of an aisle. What is left is written
once, by the operation that provisions the record, and stays until the store is
deleted that the record belongs to. So there are three things that a step can do
to provisioned data, and `Provisioning` lists them: a record is registered where
none was, those of a store are deleted, or all are kept.

What an operation registers can be told from its arguments alone, without the
shop: `Registers` reads the choices as they were spelled and fills in what was
left out. So whatever is provisioned in a shop at the end of a run, a call of
that run has said it.

## Main definitions

* `Place`, `Provisioned`: Where a record is registered, and what of it stays.
* `Shop.provisioned?`: What is provisioned at a place.
* `Registers`: What an operation registers, and where.
* `Provisioning`: What an operation can do to provisioned data.
* `Shop.Gains`: A record is registered where none was, and nothing else.

## Theorems

* `register_fitting`: A store is written that has one record more.
* `provisioned?_mapValues`: People and baskets that go elsewhere keep their data.
* `gains_store` to `gains_device`: What each sort of record adds.
* `Step.registers`: What an operation registers is there after it.
* `Step.provisioning`: What a step does to provisioned data.
* `Trace.provisioned?_eq_some`: A record after a run was there before, or was registered in it.
* `done_registered`, `runAll_registered`: Every record at the end of a run was registered in it.
-/

namespace Shopfloor

/-- Where in a store something is registered, the store itself included. -/
inductive Fitting
  | itself
  | aisle (number : String)
  | shelf (number id : String)
  | inventory (id : String)
  | device (id : String)
deriving DecidableEq

/-- Where something is registered. -/
inductive Place
  | fitting (store : String) (f : Fitting)
  | product (id : String)
  | customer (id : String)
  | basket (id : String)
deriving DecidableEq

/-- What stays of a record; the parts that change are left blank. -/
inductive Provisioned
  | store (id : String)
  | aisle (a : Aisle)
  | shelf (b : Shelf)
  | inventory (i : Inventory)
  | device (d : Device)
  | product (p : Product)
  | customer (c : Customer)
  | basket (id : String)
deriving DecidableEq

/-- The provisioned data of an aisle, which gets shelves later. -/
def Aisle.provisioned (a : Aisle) : Provisioned := .aisle { a with shelves := .empty }

/-- The provisioned data of an inventory, whose count changes. -/
def Inventory.provisioned (i : Inventory) : Provisioned := .inventory { i with count := 0 }

/-- The provisioned data of a customer, who moves and takes a basket. -/
def Customer.provisioned (c : Customer) : Provisioned :=
  .customer { c with spot := none, seen := false, basket := none }

/-- What is provisioned in a store. -/
def Store.provisioned? (s : Store) : Fitting → Option Provisioned
  | .itself => some (.store s.id)
  | .aisle n => (s.aisles.get? n).map Aisle.provisioned
  | .shelf n i => ((s.aisles.get? n).bind fun a => a.shelves.get? i).map .shelf
  | .inventory i => (s.inventory.get? i).map Inventory.provisioned
  | .device i => (s.devices.get? i).map .device

/-- What is provisioned at a place. -/
def Shop.provisioned? (shop : Shop) : Place → Option Provisioned
  | .fitting k f => (shop.stores.get? k).bind fun s => s.provisioned? f
  | .product i => (shop.products.get? i).map .product
  | .customer i => (shop.customers.get? i).map Customer.provisioned
  | .basket i => (shop.baskets.get? i).map fun b => .basket b.id

/-- The store in which a place is. -/
def Place.store? : Place → Option String
  | .fitting k _ => some k
  | _ => none

/-- What an operation registers when it succeeds, and where. The shop does not matter. -/
inductive Registers : Operation → Place → Provisioned → Prop
  | store (k : String) (name address : Option String) :
    Registers (.provisionStore (some k) name address) (.fitting k .itself) (.store k)
  | aisle (k n name : String) (description : Option String) {location : Option String}
    {place : Option AisleLocation} (hp : location.map Choice.read? = place.map some) :
    Registers (.provisionAisle (some k) (some n) (some name) description location)
      (.fitting k (.aisle n)) (.aisle ⟨n, name, description.getD "", place, .empty⟩)
  | shelf (k n i name : String) (description : Option String) {level temperature : Option String}
    {height : ShelfLevel} {warmth : Temperature} (hh : Choice.read? (shown level) = some height)
    (hw : Choice.read? (shown temperature) = some warmth) :
    Registers
      (.provisionShelf (some k) (some n) (some i) (some name) level description temperature)
      (.fitting k (.shelf n i)) (.shelf ⟨i, name, height, description.getD "", warmth⟩)
  | product (i name : String) (description size category : Option String) {price : Binary64}
    {temperature : Option String} {warmth : Temperature} (hx : price.isFinite = true)
    (h0 : price.belowZero = false) (hw : Choice.read? (shown temperature) = some warmth) :
    Registers
      (.provisionProduct (some i) (some name) description size category (some price) temperature)
      (.product i)
      (.product ⟨i, name, description.getD "", size.getD "", category.getD "", price, warmth⟩)
  | inventory (i k n b p : String) (most : Int) (units : Option Int) {type : Option String}
    {sort : InventoryType} (ht : type.elim (some .standard) Choice.read? = some sort) :
    Registers
      (.provisionInventory (some i) (some k) (some n) (some b) (some most) units (some p) type)
      (.fitting k (.inventory i)) (.inventory ⟨i, ⟨k, n, b⟩, most, 0, p, sort⟩)
  | customer (i first last email account : String) {type : Option String} {sort : CustomerType}
    (ht : Choice.read? (shown type) = some sort) :
    Registers
      (.provisionCustomer (some i) (some first) (some last) type (some email) (some account))
      (.customer i) (.customer ⟨i, first, last, sort, email, account, none, none, false, none⟩)
  | basket (i : String) : Registers (.provisionBasket (some i)) (.basket i) (.basket i)
  | device (i name k n : String) {type : String} {kind : DeviceKind}
    (hk : classifyDevice type = .ok kind) :
    Registers (.provisionDevice (some i) (some name) type (some k) (some n))
      (.fitting k (.device i)) (.device ⟨i, name, Choice.fold type, kind, ⟨k, n⟩⟩)

/-- No number is written about what registers something. -/
theorem Registers.countsUnits {op : Operation} {place : Place} {record : Provisioned}
    (h : Registers op place record) : op.countsUnits = false := by
  cases h <;> rfl

/-- What an operation can do to provisioned data: it registers a record where none was, deletes those
    of a store, or keeps all as they are. -/
inductive Provisioning (op : Operation) (before after : Place → Option Provisioned) : Prop
  | registers {there : Place} {record : Provisioned} (h : Registers op there record)
    (hfree : before there = none)
    (hafter : ∀ place, after place = if place = there then some record else before place)
  | deletes {k : String} (h : op = .deleteStore (some k))
    (hafter : ∀ place, after place = if place.store? = some k then none else before place)
  | keeps (hafter : ∀ place, after place = before place)

/-- A record after an operation was there before, or the operation has registered it. -/
theorem Provisioning.eq_some {op : Operation} {before after : Place → Option Provisioned}
    (h : Provisioning op before after) {place : Place} {record : Provisioned}
    (hrecord : after place = some record) :
    before place = some record ∨ Registers op place record := by
  cases h with
  | @registers there _ hput _ hafter =>
      rw [hafter] at hrecord
      by_cases hp : place = there
      · rw [if_pos hp] at hrecord
        rw [hp, ← Option.some.inj hrecord]
        exact Or.inr hput
      · rw [if_neg hp] at hrecord
        exact Or.inl hrecord
  | deletes _ hafter =>
      rw [hafter] at hrecord
      split at hrecord
      · cases hrecord
      · exact Or.inl hrecord
  | keeps hafter => exact Or.inl ((hafter place).symm.trans hrecord)

/-- What is read off the values of a map after one was written under a key, where keys make
    places. -/
theorem Keyed.map_get?_insert {α β γ : Type} [DecidableEq γ] (m : Keyed α) (f : α → β)
    {place : String → γ} (hplace : ∀ x y, place x = place y → x = y) (k k' : String) (v : α) :
    ((m.insert k v).get? k').map f =
      if place k' = place k then some (f v) else (m.get? k').map f := by
  rw [get?_insert]
  by_cases h : k' = k
  · rw [if_pos h, if_pos (congrArg place h), Option.map_some]
  · rw [if_neg h, if_neg fun he => h (hplace k' k he)]

/-- What is read off the values of a map stays when they are changed in what is not read. -/
theorem Keyed.map_get?_mapValues {α β : Type} (m : Keyed α) (f : α → β) {g : String → α → α}
    (h : ∀ k v, m.get? k = some v → f (g k v) = f v) (k : String) :
    ((m.mapValues g).get? k).map f = (m.get? k).map f := by
  rw [get?_mapValues]
  cases hk : m.get? k with
  | none => rfl
  | some v => exact congrArg some (h k v hk)

namespace Store

variable {s : Store}

/-- What is provisioned in a store with a new aisle. -/
theorem provisioned?_insertAisle {n : String} {a : Aisle} (hn : s.aisles.get? n = none)
    (ha : a.shelves = .empty) (f : Fitting) :
    ({ s with aisles := s.aisles.insert n a } : Store).provisioned? f =
      if f = .aisle n then some a.provisioned else s.provisioned? f := by
  cases f with
  | aisle m =>
      exact Keyed.map_get?_insert _ _ (fun _ _ => Fitting.aisle.inj) _ _ _
  | shelf m i =>
      -- The new aisle has no shelves, and there was no aisle in its place.
      have hnone : a.shelves.get? i = none := by
        rw [ha, Keyed.get?_empty]
      exact congrArg (Option.map Provisioned.shelf)
        (Keyed.bind_insert s.aisles n a (fun a => a.shelves.get? i) m hn hnone)
  | itself | inventory _ | device _ => rfl

/-- What is provisioned in a store with a new shelf. The data of the aisle stays. -/
theorem provisioned?_insertShelf {n i : String} {a : Aisle} {b : Shelf}
    (ha : s.aisles.get? n = some a) (hid : a.number = n) (f : Fitting) :
    ({ s with aisles := s.aisles.insert a.number { a with shelves := a.shelves.insert i b } } :
      Store).provisioned? f = if f = .shelf n i then some (.shelf b) else s.provisioned? f := by
  subst hid
  cases f with
  | aisle m =>
      unfold provisioned?
      dsimp only
      rw [Keyed.get?_insert]
      by_cases hm : m = a.number
      · rw [if_pos hm, hm, ha]
        rfl
      · rw [if_neg hm]
        rfl
  | shelf m j =>
      unfold provisioned?
      dsimp only
      rw [Keyed.get?_insert]
      by_cases hm : m = a.number
      · rw [if_pos hm, hm, ha, Option.bind_some, Option.bind_some]
        exact Keyed.map_get?_insert _ _ (fun _ _ h => (Fitting.shelf.inj h).2) _ _ _
      · rw [if_neg hm, if_neg fun h => hm (Fitting.shelf.inj h).1]
  | itself | inventory _ | device _ => rfl

/-- What is provisioned in a store with a new inventory. -/
theorem provisioned?_insertInventory (i : String) (j : Inventory) (f : Fitting) :
    ({ s with inventory := s.inventory.insert i j } : Store).provisioned? f =
      if f = .inventory i then some j.provisioned else s.provisioned? f := by
  cases f with
  | inventory k =>
      exact Keyed.map_get?_insert _ _ (fun _ _ => Fitting.inventory.inj) _ _ _
  | itself | aisle _ | shelf _ _ | device _ => rfl

/-- What is provisioned in a store with a new device. -/
theorem provisioned?_insertDevice (i : String) (d : Device) (f : Fitting) :
    ({ s with devices := s.devices.insert i d } : Store).provisioned? f =
      if f = .device i then some (.device d) else s.provisioned? f := by
  cases f with
  | device k =>
      exact Keyed.map_get?_insert _ _ (fun _ _ => Fitting.device.inj) _ _ _
  | itself | aisle _ | shelf _ _ | inventory _ => rfl

/-- In stores with the same fixtures the same is provisioned. -/
theorem provisioned?_of_fixtures {s' : Store} (h : s'.fixtures = s.fixtures) (f : Fitting) :
    s'.provisioned? f = s.provisioned? f := by
  rcases (fixtures_eq_iff s s').1 h with ⟨hid, -, -, haisles, hinventory, hdevices⟩
  unfold provisioned?
  rw [hid, haisles, hinventory, hdevices]

/-- Counts are not provisioned data. -/
theorem provisioned?_counted (n : Inventory → Int) (f : Fitting) :
    (s.counted n).provisioned? f = s.provisioned? f := by
  cases f with
  | inventory k =>
      exact Keyed.map_get?_mapValues s.inventory Inventory.provisioned (g := fun _ i => i.counted n)
        (fun _ _ _ => rfl) k
  | itself | aisle _ | shelf _ _ | device _ => rfl

end Store

namespace Shop

variable {shop shop' : Shop}

/-- What is provisioned in a store that is there. -/
theorem provisioned?_fitting {k : String} {s : Store} (hs : shop.stores.get? k = some s)
    (f : Fitting) : shop.provisioned? (.fitting k f) = s.provisioned? f := by
  unfold provisioned?
  dsimp only
  rw [hs, Option.bind_some]

theorem provisioned?_aisle {k n : String} {s : Store} {a : Aisle} (hs : shop.stores.get? k = some s)
    (ha : s.aisles.get? n = some a) :
    shop.provisioned? (.fitting k (.aisle n)) = some a.provisioned :=
  (provisioned?_fitting hs _).trans (congrArg (Option.map Aisle.provisioned) ha)

theorem provisioned?_shelf {k n i : String} {s : Store} {a : Aisle} {b : Shelf}
    (hs : shop.stores.get? k = some s) (ha : s.aisles.get? n = some a)
    (hb : a.shelves.get? i = some b) :
    shop.provisioned? (.fitting k (.shelf n i)) = some (.shelf b) := by
  rw [provisioned?_fitting hs]
  unfold Store.provisioned?
  dsimp only
  rw [ha, Option.bind_some, hb]
  rfl

theorem provisioned?_inventory {k i : String} {s : Store} {j : Inventory}
    (hs : shop.stores.get? k = some s) (hj : s.inventory.get? i = some j) :
    shop.provisioned? (.fitting k (.inventory i)) = some j.provisioned :=
  (provisioned?_fitting hs _).trans (congrArg (Option.map Inventory.provisioned) hj)

theorem provisioned?_device {k i : String} {s : Store} {d : Device}
    (hs : shop.stores.get? k = some s) (hd : s.devices.get? i = some d) :
    shop.provisioned? (.fitting k (.device i)) = some (.device d) :=
  (provisioned?_fitting hs _).trans (congrArg (Option.map Provisioned.device) hd)

theorem provisioned?_product {i : String} {p : Product} (hp : shop.products.get? i = some p) :
    shop.provisioned? (.product i) = some (.product p) :=
  congrArg (Option.map Provisioned.product) hp

theorem provisioned?_customer {i : String} {c : Customer} (hc : shop.customers.get? i = some c) :
    shop.provisioned? (.customer i) = some c.provisioned :=
  congrArg (Option.map Customer.provisioned) hc

/-- What is provisioned after a store was written. -/
theorem provisioned?_putStore (s : Store) (k : String) (f : Fitting) :
    (shop.putStore s).provisioned? (.fitting k f) =
      if k = s.id then s.provisioned? f else shop.provisioned? (.fitting k f) := by
  unfold provisioned? putStore
  dsimp only
  rw [Keyed.get?_insert]
  by_cases hk : k = s.id
  · rw [if_pos hk, if_pos hk, Option.bind_some]
  · rw [if_neg hk, if_neg hk]

/-- A store is written that has one record more than was under its id before. -/
theorem putStore_register {s : Store} {k : String} {g : Fitting} {record : Provisioned}
    (h : ∀ f, s.provisioned? f = if f = g then some record else shop.provisioned? (.fitting k f))
    (hid : s.id = k) (place : Place) :
    (shop.putStore s).provisioned? place =
      if place = .fitting k g then some record else shop.provisioned? place := by
  cases place with
  | fitting k' f =>
      rw [provisioned?_putStore, hid]
      by_cases hk : k' = k
      · rw [if_pos hk, h f, hk]
        exact if_congr ⟨congrArg _, fun he => (Place.fitting.inj he).2⟩ rfl rfl
      · rw [if_neg hk, if_neg fun he => hk (Place.fitting.inj he).1]
  | product _ | customer _ | basket _ => rfl

/-- The same of a store that is there and gets a new fitting. -/
theorem register_fitting {k : String} {s s' : Store} {g : Fitting} {record : Provisioned}
    (hs : shop.stores.get? k = some s)
    (h : ∀ f, s'.provisioned? f = if f = g then some record else s.provisioned? f) (hid : s'.id = k)
    (place : Place) :
    (shop.putStore s').provisioned? place =
      if place = .fitting k g then some record else shop.provisioned? place := by
  refine putStore_register (fun f => ?_) hid place
  rw [h f, provisioned?_fitting hs]

/-- New counts keep all provisioned data. -/
theorem provisioned?_recount (n : Inventory → Int) (place : Place) :
    (shop.recount n).provisioned? place = shop.provisioned? place := by
  cases place with
  | fitting k f =>
      unfold provisioned?
      dsimp only
      rw [recount_eq, Keyed.get?_mapValues]
      cases shop.stores.get? k with
      | none => rfl
      | some s => exact s.provisioned?_counted n f
  | product _ | customer _ | basket _ => rfl

/-- A basket that is written back is as it was provisioned. -/
theorem provisioned?_putBasket (hids : shop.baskets.All fun k b => b.id = k) (b : Basket)
    (place : Place) : (shop.putBasket b).provisioned? place = shop.provisioned? place := by
  cases place with
  | basket k =>
      refine Keyed.map_get?_mapValues _ _ (fun x v hv => ?_) k
      by_cases hx : x = b.id
      · rw [if_pos hx, hids x v hv, hx]
      · rw [if_neg hx]
  | fitting _ _ | product _ | customer _ => rfl

/-- Goods go from shelves into a basket, or back. -/
theorem provisioned?_putBasket_recount (hids : shop.baskets.All fun k b => b.id = k)
    (n : Inventory → Int) (b : Basket) (place : Place) :
    ((shop.recount n).putBasket b).provisioned? place = shop.provisioned? place := by
  have hids' : (shop.recount n).baskets.All fun k b => b.id = k := hids
  rw [provisioned?_putBasket hids', provisioned?_recount]

/-- People and baskets go from one store to another: stores that change in their lists alone keep
    all provisioned data, and so do customers and baskets that keep theirs. -/
theorem provisioned?_mapValues {f : String → Store → Store} {g : String → Customer → Customer}
    {h : String → Basket → Basket} (hf : ∀ k s, (f k s).fixtures = s.fixtures)
    (hg : ∀ k c, shop.customers.get? k = some c → (g k c).provisioned = c.provisioned)
    (hh : ∀ k b, shop.baskets.get? k = some b → (h k b).id = b.id) (place : Place) :
    ({ shop with
      stores := shop.stores.mapValues f
      customers := shop.customers.mapValues g
      baskets := shop.baskets.mapValues h } : Shop).provisioned? place =
      shop.provisioned? place := by
  cases place with
  | fitting k x =>
      unfold provisioned?
      dsimp only
      rw [Keyed.get?_mapValues]
      cases shop.stores.get? k with
      | none => rfl
      | some s => exact Store.provisioned?_of_fixtures (hf k s) x
  | product i => rfl
  | customer i => exact Keyed.map_get?_mapValues _ _ hg i
  | basket i =>
      exact Keyed.map_get?_mapValues shop.baskets (fun b => Provisioned.basket b.id)
        (fun k b hb => congrArg Provisioned.basket (hh k b hb)) i

/-- A store that is written over another with the same provisioned data keeps all of it. -/
theorem provisioned?_putStore_of_provisioned? {s s' : Store} (hs : shop.stores.get? s'.id = some s)
    (h : ∀ f, s'.provisioned? f = s.provisioned? f) (place : Place) :
    (shop.putStore s').provisioned? place = shop.provisioned? place := by
  cases place with
  | fitting k f =>
      rw [provisioned?_putStore]
      by_cases hk : k = s'.id
      · rw [if_pos hk, h f, hk, provisioned?_fitting hs]
      · rw [if_neg hk]
  | product _ | customer _ | basket _ => rfl

/-- What is provisioned after a store was deleted. -/
theorem provisioned?_without (s : Store) (place : Place) :
    (shop.without s).provisioned? place =
      if place.store? = some s.id then none else shop.provisioned? place := by
  cases place with
  | fitting k f =>
      have hget : (shop.without s).provisioned? (.fitting k f) =
          ((shop.stores.erase s.id).get? k).bind fun s => s.provisioned? f := rfl
      have hstore : (Place.fitting k f).store? = some k := rfl
      rw [hget, Keyed.get?_erase, hstore]
      by_cases hk : k = s.id
      · rw [if_pos hk, if_pos (congrArg some hk), Option.bind_none]
      · rw [if_neg hk, if_neg fun he => hk (Option.some.inj he)]
        rfl
  | product i => rfl
  | customer i =>
      refine Keyed.map_get?_mapValues _ _ (fun k c _ => ?_) i
      split <;> rfl
  | basket i =>
      refine Keyed.map_get?_mapValues _ _ (fun k b _ => ?_) i
      split <;> rfl

/-! ### What is registered -/

/-- A record is registered at a place where none was, and nothing else changes. -/
structure Gains (shop shop' : Shop) (there : Place) (record : Provisioned) : Prop where
  free : shop.provisioned? there = none
  after : ∀ place,
    shop'.provisioned? place = if place = there then some record else shop.provisioned? place

/-- A new store. Nothing stood under its id, and nothing stands in it. -/
theorem gains_store {k : String} (hk : shop.stores.get? k = none) (name address : String) :
    shop.Gains (shop.putStore (.bare k address name)) (.fitting k .itself) (.store k) := by
  have hnone : ∀ f, shop.provisioned? (.fitting k f) = none := fun f => by
    unfold provisioned?
    dsimp only
    rw [hk, Option.bind_none]
  refine ⟨hnone _, putStore_register (k := k) (fun f => ?_) rfl⟩
  rw [hnone]
  cases f <;> rfl

section Fittings

variable {k : String} {s : Store} (hs : shop.stores.get? k = some s) (hid : s.id = k)
include hs hid

theorem gains_aisle {n : String} {a : Aisle} (hn : s.aisles.get? n = none)
    (ha : a.shelves = .empty) :
    shop.Gains (shop.putStore { s with aisles := s.aisles.insert n a }) (.fitting k (.aisle n))
      a.provisioned := by
  refine ⟨?_, register_fitting hs (Store.provisioned?_insertAisle hn ha) hid⟩
  rw [provisioned?_fitting hs]
  exact congrArg (Option.map Aisle.provisioned) hn

theorem gains_shelf {n i : String} {a : Aisle} {b : Shelf} (ha : s.aisles.get? n = some a)
    (hn : a.number = n) (hi : a.shelves.get? i = none) :
    shop.Gains
      (shop.putStore { s with
        aisles := s.aisles.insert a.number { a with shelves := a.shelves.insert i b } })
      (.fitting k (.shelf n i)) (.shelf b) := by
  refine ⟨?_, register_fitting hs (Store.provisioned?_insertShelf ha hn) hid⟩
  rw [provisioned?_fitting hs]
  unfold Store.provisioned?
  dsimp only
  rw [ha, Option.bind_some, hi]
  rfl

theorem gains_inventory {i : String} {j : Inventory} (hi : s.inventory.get? i = none) :
    shop.Gains (shop.putStore { s with inventory := s.inventory.insert i j })
      (.fitting k (.inventory i)) j.provisioned := by
  refine ⟨?_, register_fitting hs (Store.provisioned?_insertInventory i _) hid⟩
  rw [provisioned?_fitting hs]
  exact congrArg (Option.map Inventory.provisioned) hi

theorem gains_device {i : String} {d : Device} (hi : s.devices.get? i = none) :
    shop.Gains (shop.putStore { s with devices := s.devices.insert i d })
      (.fitting k (.device i)) (.device d) := by
  refine ⟨?_, register_fitting hs (Store.provisioned?_insertDevice i _) hid⟩
  rw [provisioned?_fitting hs]
  exact congrArg (Option.map Provisioned.device) hi

end Fittings

theorem gains_product {i : String} (hi : shop.products.get? i = none) (p : Product) :
    shop.Gains { shop with products := shop.products.insert i p } (.product i) (.product p) := by
  refine ⟨congrArg (Option.map Provisioned.product) hi, fun place => ?_⟩
  cases place with
  | product k => exact Keyed.map_get?_insert _ _ (fun _ _ => Place.product.inj) _ _ _
  | fitting _ _ | customer _ | basket _ => rfl

theorem gains_customer {i : String} (hi : shop.customers.get? i = none) (c : Customer) :
    shop.Gains { shop with customers := shop.customers.insert i c } (.customer i)
      c.provisioned := by
  refine ⟨congrArg (Option.map Customer.provisioned) hi, fun place => ?_⟩
  cases place with
  | customer k => exact Keyed.map_get?_insert _ _ (fun _ _ => Place.customer.inj) _ _ _
  | fitting _ _ | product _ | basket _ => rfl

theorem gains_basket {i : String} (hi : shop.baskets.get? i = none) (b : Basket) :
    shop.Gains { shop with baskets := shop.baskets.insert i b } (.basket i) (.basket b.id) := by
  refine ⟨congrArg (Option.map fun b : Basket => Provisioned.basket b.id) hi, fun place => ?_⟩
  cases place with
  | basket k => exact Keyed.map_get?_insert _ _ (fun _ _ => Place.basket.inj) _ _ _
  | fitting _ _ | product _ | customer _ => rfl

/-- An operation that registers something, and succeeds, leaves what can be told from its arguments
    where nothing was before. -/
theorem Step.registers {op : Operation} {r : Reply} (h : Step shop op r shop')
    (hsound : shop.Sound) {there : Place} {record : Provisioned} (hput : Registers op there record) :
    shop.Gains shop' there record := by
  have hf := hsound.filed
  -- The choices are read as the step has read them, and ids are those that the caller gave.
  cases hput with
  | store k name address =>
      cases h with
      | query hquery => cases hquery
      | openStore hk => exact gains_store hk _ _
  | aisle k n name description hp₀ =>
      cases h with
      | query hquery => cases hquery
      | openAisle _ _ hs hn hp ha =>
          rw [hp, Option.map_inj_right fun _ _ => Option.some.inj] at hp₀
          subst ha hp₀
          exact gains_aisle hs (hsound.store_self hs).1 hn rfl
  | shelf k n i name description hh₀ hw₀ =>
      cases h with
      | query hquery => cases hquery
      | @putUpShelf _ _ _ _ s a _ _ _ _ _ _ hs ha hi hh hw hb =>
          rw [hh, Option.some.injEq] at hh₀
          rw [hw, Option.some.injEq] at hw₀
          subst hb hh₀ hw₀
          -- The ids that store and aisle carry are those of the call.
          have hfiled := hf.floor.filed k s hs
          exact gains_shelf hs hfiled.1 ha (hfiled.2.aisles n a ha).1 hi
  | product i name description size category hx₀ _ hw₀ =>
      cases h with
      | query hquery => cases hquery
      | addProduct _ _ _ _ hi _ _ hw hp =>
          rw [hw, Option.some.injEq] at hw₀
          subst hp hw₀
          exact gains_product hi _
  | inventory i k n b p most _ ht₀ =>
      cases h with
      | query hquery => cases hquery
      | @addInventory _ _ _ _ _ s a board _ units item _ j _ hs ha hb _ _ hp ht _ hsi hj =>
          rw [ht, Option.some.injEq] at ht₀
          have hfiled := hf.floor.filed k s hs
          have haisle := hfiled.2.aisles n a ha
          rw [hfiled.1, haisle.1, haisle.2 b board hb, hf.products p item hp] at hj
          subst hj ht₀
          exact gains_inventory hs hfiled.1 hsi
  | customer i first last email account ht₀ =>
      cases h with
      | query hquery => cases hquery
      | addCustomer _ hi ht hc =>
          rw [ht, Option.some.injEq] at ht₀
          subst hc ht₀
          exact gains_customer hi _
  | basket i =>
      cases h with
      | query hquery => cases hquery
      | addBasket hi hb =>
          subst hb
          exact gains_basket hi _
  | device i name k n hk₀ =>
      cases h with
      | query hquery => cases hquery
      | @installDevice _ _ _ _ _ _ s a d hk hs ha _ hsi hd =>
          rw [hk, Except.ok.injEq] at hk₀
          have hfiled := hf.floor.filed k s hs
          rw [hfiled.1, (hfiled.2.aisles n a ha).1] at hd
          subst hd hk₀
          exact gains_device hs hfiled.1 hsi

/-- What a step does to provisioned data. -/
theorem Step.provisioning {op : Operation} {r : Reply} (h : Step shop op r shop')
    (hsound : shop.Sound) : Provisioning op shop.provisioned? shop'.provisioned? := by
  have hf := hsound.filed
  -- What registers something does nothing else.
  have hputs : ∀ {there record}, Registers op there record →
      Provisioning op shop.provisioned? shop'.provisioned? :=
    fun hput => .registers hput (h.registers hsound hput).free (h.registers hsound hput).after
  cases h with
  | query _ => exact .keeps fun _ => rfl
  | openStore _ => exact hputs (.store _ _ _)
  | updateStore _ _ hs hs' =>
      subst hs'
      refine .keeps (provisioned?_putStore_of_provisioned? (hsound.store_self hs).2 fun f => ?_)
      cases f <;> rfl
  | closeStore hs =>
      refine .deletes rfl fun place => ?_
      rw [provisioned?_without, (hsound.store_self hs).1]
  | openAisle description _ _ _ hp _ => exact hputs (.aisle _ _ _ description hp)
  | putUpShelf _ description _ _ _ _ hh hw _ => exact hputs (.shelf _ _ _ _ description hh hw)
  | addProduct description size category _ _ hx h0 hw _ =>
      exact hputs (.product _ _ description size category hx h0 hw)
  | addInventory _ _ _ _ _ _ _ ht _ _ _ => exact hputs (.inventory _ _ _ _ _ _ _ ht)
  | adjustInventory hi _ _ hi' =>
      subst hi'
      rw [hsound.putInventory_eq_recount ((inventory?_eq_some_iff hf.floor _ _).1 hi).1]
      exact .keeps (provisioned?_recount _)
  | addCustomer _ _ ht _ => exact hputs (.customer _ _ _ _ _ ht)
  | moveCustomer hc hs _ =>
      rw [afterMove_eq hf.baskets (hsound.store_self hs).2]
      refine .keeps (provisioned?_mapValues ?_ (fun x v hv => ?_) fun x v _ => ?_)
      · exact fun _ _ => rfl
      · -- The record that is written is the one that was there.
        split
        · rename_i hx
          rw [hx, (hsound.customer_self hc).2, Option.some.injEq] at hv
          rw [← hv]
          rfl
        · rfl
      · split <;> rfl
  | addBasket _ _ => exact hputs (.basket _)
  | assignBasket hc hb _ _ _ =>
      rw [afterAssign_eq (hsound.basket_self hb).2 (hsound.placed.spot_store hc)]
      refine .keeps (provisioned?_mapValues ?_ (fun x v _ => ?_) fun x v _ => ?_)
      · exact fun _ _ => rfl
      · split <;> rfl
      · split <;> rfl
  | takeIntoBasket _ _ _ _ hi _ _ _ hi' _ =>
      subst hi'
      rw [hsound.putInventory_eq_recount (choose_keeps hf.floor hi).1]
      exact .keeps (provisioned?_putBasket_recount hf.baskets _ _)
  | putBackFromBasket _ _ _ _ _ _ hi _ _ _ hi' _ =>
      subst hi'
      rw [hsound.putInventory_eq_recount (choose_keeps hf.floor hi).1]
      exact .keeps (provisioned?_putBasket_recount hf.baskets _ _)
  | emptyBasket _ => exact .keeps (provisioned?_putBasket_recount hf.baskets _ _)
  | installDevice hk _ _ _ _ _ => exact hputs (.device _ _ _ _ hk)
  | raiseEvent _ _ _ => exact .keeps fun _ => rfl
  | issueCommand _ _ _ _ => exact .keeps fun _ => rfl

/-- A record after a run was there before it, or was registered in it. -/
theorem Trace.provisioned?_eq_some {deeds : List Deed} (h : Trace shop deeds shop')
    (hsound : shop.Sound) {place : Place} {record : Provisioned}
    (hrecord : shop'.provisioned? place = some record) :
    shop.provisioned? place = some record ∨ ∃ op ∈ deeds.map Deed.op, Registers op place record := by
  induction h with
  | nil _ => exact Or.inl hrecord
  | cons hstep _ ih =>
      rcases ih (hstep.sound hsound) hrecord with hthere | ⟨op, hop, hput⟩
      · refine ((hstep.provisioning hsound).eq_some hthere).imp_right fun hput => ?_
        exact ⟨_, List.mem_cons_self, hput⟩
      · exact Or.inr ⟨op, List.mem_cons_of_mem _ hop, hput⟩
  | @unlogged _ _ _ first _ _ hstep hfirst _ ih =>
      refine (ih (hstep.sound hsound) hrecord).imp_left fun hthere => ?_
      rcases (hstep.provisioning hsound).eq_some hthere with hbefore | hput
      · exact hbefore
      · -- What moves units registers nothing.
        cases hput <;> cases hfirst

/-- Every record at the end of a run was registered by an operation that succeeded in it. -/
theorem done_registered {calls : List (Option String × Operation)} {place : Place}
    {record : Provisioned} (h : (Shop.runAll .empty calls).provisioned? place = some record) :
    ∃ op ∈ done .empty calls, Registers op place record := by
  rcases (sound_empty.trace calls).provisioned?_eq_some sound_empty h with hempty | hdone
  · cases place <;> cases hempty
  · exact hdone

/-- Every record at the end of a run was registered by a call of it. -/
theorem runAll_registered {calls : List (Option String × Operation)} {place : Place}
    {record : Provisioned} (h : (Shop.runAll .empty calls).provisioned? place = some record) :
    ∃ call ∈ calls, Registers call.2 place record := by
  rcases done_registered h with ⟨op, hop, hput⟩
  rcases exists_call_of_mem_done hop with ⟨call, hmem, rfl⟩
  exact ⟨call, hmem, hput⟩

end Shop

end Shopfloor
