import Shopfloor.Proofs.Reachable
/-!
# What Refers to What

Every id that a record names is the id of something that is there, and a search
by id finds the one thing that has it.

Nothing checks this when records are read. It holds because each record was
checked when it was registered and because nothing it names is ever taken away
alone: aisles and shelves go with their store, and products stay. `Coherent`
puts together, for one store, what the invariants say of it.

A search asks one store after the other and takes the first answer. As no two
stores answer to the same id, the order in which they are asked does not
matter, and `Answers` can say what a search finds without naming it. An id that
became free when its store closed may stand in another store later; what is
found under it then is what that store has.

## Main definitions

* `Shop.Coherent`: Everything in a store is under its id and names what is there.
* `Shop.Answers`: A search finds what the stores have, and nothing else.

## Theorems

* `Sound.coherent`: Every store is coherent.
* `answers_of_apart`: A search answers where no two stores have the same id.
* `references_resolve`: All of this in every reachable shop.
-/

namespace Shopfloor

namespace Shop

/-- Everything in a store is under its own id and names what is there: the place where it stands,
    the product that it is of, the customer or the basket that it is the listing of. -/
structure Coherent (shop : Shop) (k : String) (s : Store) : Prop where
  id : s.id = k
  aisles : s.aisles.All fun n a => a.number = n ∧ a.shelves.All fun i b => b.id = i
  inventory : s.inventory.All fun i r => r.id = i ∧ r.spot.store = k ∧
    s.HasShelf r.spot.aisle r.spot.shelf ∧ shop.products.contains r.product = true
  devices : s.devices.All fun d r => r.id = d ∧ r.spot.store = k ∧ s.HasAisle r.spot.aisle
  customers : s.customers.All fun c l =>
    l = .current ∧ ∃ r, shop.customers.get? c = some r ∧ r.id = c
  baskets : s.baskets.All fun b l => l = .current ∧ ∃ r, shop.baskets.get? b = some r ∧ r.id = b

/-- A search finds under an id what a store has under it, and nothing if no store has the id. -/
structure Answers {α : Type} (shop : Shop) (f : Store → Keyed α)
    (search : Option String → Option α) : Prop where
  found : ∀ id a, search id = some a ↔
    ∃ k s, shop.stores.get? k = some s ∧ (f s).find? id = some a
  missing : ∀ id, search id = none ↔ ∀ k s, shop.stores.get? k = some s → (f s).find? id = none

variable {shop : Shop}

/-- Every store of a sound shop is coherent. -/
theorem Sound.coherent (hsound : shop.Sound) : shop.stores.All shop.Coherent := by
  intro k s hs
  rcases hsound.filed.floor.filed k s hs with ⟨hid, hfiled⟩
  refine ⟨hid, hfiled.aisles, fun i r hr => ?_, fun d r hr => ?_, fun c l hl => ?_,
    fun b l hl => ?_⟩
  · rcases hfiled.inventory i r hr with ⟨hri, hstore, hshelf⟩
    exact ⟨hri, hstore.trans hid, hshelf, (hsound.stocked.counts k s hs i r hr).2.2⟩
  · rcases hfiled.devices d r hr with ⟨hrd, hstore, haisle⟩
    exact ⟨hrd, hstore.trans hid, haisle⟩
  · -- Whoever is on the list of a store is somewhere, so they are registered.
    have hlists := hsound.placed.customers k s hs
    have hof := (hlists.contains_iff c).1 ((Keyed.contains_iff _ _).2 ⟨l, hl⟩)
    rcases (storeOf_eq_some_iff c k).1 hof with ⟨spot, hspot, -⟩
    rcases Option.bind_eq_some_iff.1 hspot with ⟨r, hr, -⟩
    exact ⟨hlists.current c l hl, r, hr, hsound.filed.customers c r hr⟩
  · have hlists := hsound.placed.baskets k s hs
    have hof := (hlists.contains_iff b).1 ((Keyed.contains_iff _ _).2 ⟨l, hl⟩)
    rcases Option.bind_eq_some_iff.1 hof with ⟨r, hr, -⟩
    exact ⟨hlists.current b l hl, r, hr, hsound.filed.baskets b r hr⟩

/-- A search answers if no two stores have the same id. -/
theorem answers_of_apart {α : Type} {f : Store → Keyed α} (happart : shop.stores.Apart f) :
    shop.Answers f fun id => shop.stores.values.findSome? fun s => (f s).find? id :=
  ⟨fun id a => findSome?_find?_eq_some_iff happart id a,
    fun id => Keyed.findSome?_values_eq_none_iff shop.stores fun s => (f s).find? id⟩

/-- References resolve. Every record is under its own id, what stands in a store names the store,
    an aisle and a shelf of it and a product of the catalogue, and no inventory and no device is in
    two stores. Hence a search for one of them finds the one record that has the id, or nothing if
    no store has it. -/
theorem references_resolve (h : Reachable shop) :
    shop.stores.All shop.Coherent ∧
    (shop.products.All (fun k p => p.id = k) ∧ shop.customers.All (fun k c => c.id = k) ∧
      shop.baskets.All fun k b => b.id = k) ∧
    (shop.stores.Apart Store.inventory ∧ shop.stores.Apart Store.devices) ∧
    shop.Answers Store.inventory shop.inventory? ∧ shop.Answers Store.devices shop.device? := by
  have hsound := h.sound
  have hfloor := hsound.filed.floor
  exact ⟨hsound.coherent,
    ⟨hsound.filed.products, hsound.filed.customers, hsound.filed.baskets⟩,
    ⟨hfloor.inventory, hfloor.devices⟩,
    answers_of_apart hfloor.inventory, answers_of_apart hfloor.devices⟩

/-- The day after the morning: the store with the bread closes, and the other one takes up an
    inventory under the id that has become free. -/
def nextDay : List (Option String × Operation) :=
  let ask op := (some "key", op)
  [ask (.deleteStore (some "north")),
    ask (.provisionAisle (some "south") (some "7") (some "Bread") none none),
    ask (.provisionShelf (some "south") (some "7") (some "z") (some "Top") (some "high") none
      (some "ambient")),
    ask (.provisionInventory (some "i1") (some "south") (some "7") (some "z") (some 4) (some 4)
      (some "rye") none)]

/-- What is found under the id then stands in the other store, on a shelf of it, and is of a product
    of the catalogue. -/
theorem reference_after_next_day :
    let shop := Shop.runAll (Shop.runAll .empty morning) nextDay
    ∃ r s, shop.inventory? (some "i1") = some r ∧ shop.stores.get? "south" = some s ∧
      r.spot.store = "south" ∧ s.HasShelf r.spot.aisle r.spot.shelf ∧
      shop.products.contains r.product = true := by
  intro shop
  have hresolve := references_resolve ((Reachable.empty.runAll morning).runAll nextDay)
  have hstore : ((shop.stores.get? "south").bind fun s => s.inventory.get? "i1").isSome = true := by
    decide +kernel
  rcases Option.isSome_iff_exists.1 hstore with ⟨r, hr⟩
  rcases Option.bind_eq_some_iff.1 hr with ⟨s, hs, hi⟩
  rcases (hresolve.1 "south" s hs).inventory "i1" r hi with ⟨-, hspot, hshelf, hproduct⟩
  exact ⟨r, s, (hresolve.2.2.2.1.found (some "i1") r).2 ⟨"south", s, hs, hi⟩, hs, hspot, hshelf,
    hproduct⟩

end Shop

end Shopfloor
