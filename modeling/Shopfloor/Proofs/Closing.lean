import Shopfloor.Proofs.Act.Completion
import Shopfloor.Proofs.Provisioned
/-!
# Closed Stores

A store that closes leaves no trace.

Closing reaches customers through the list of the store, baskets through what they
say themselves, and what the store owned only by taking the store away. That
nobody is missed cannot be seen in any of the three. It follows from `Placed`:
list and records agree, so all of closing is one change that the id of the store
decides, `Shop.closed`. Everything that is not named there is as it was.

What is gone stays gone. Nobody can walk into a store that is not there, and a
search finds only what stands in one, so `Vanished` is true of any sound shop
without the store, however long ago it closed. A store and whatever stands in it
come back in one way alone, by being registered. That is a fact about provisioned data, and
one about a whole run: what was not there before and was not registered in it is
none afterwards. So an id that was free stays free, for any store to use.

## Main definitions

* `Customer.outOf`, `Basket.outOf`, `Shop.closed`: The shop after a store has closed.
* `Shop.Vanished`: No trace of a store is left.
* `Shop.InventoryFree`, `Shop.DeviceFree`: An id is found nowhere and can be used anywhere.
* `Shop.Puts`: In a run something was registered at a place.

## Theorems

* `Sound.without_eq_closed`: Nobody is missed when a store closes.
* `Sound.vanished`: A store that is not there has left no trace.
* `Sound.inventoryFree`, `Sound.deviceFree`: What is not found can be registered.
* `Sound.provisioned?_runAll_eq_none`: What is not registered does not come back.
* `closes_without_trace`: A store that closes leaves no trace.
-/

namespace Shopfloor

/-- A customer after a store has closed: nowhere, if they were in it. -/
def Customer.outOf (c : Customer) (k : String) : Customer :=
  if c.spot.map AisleSpot.store = some k then { c with spot := none } else c

/-- A basket after a store has closed: in no store, if it was in this one. -/
def Basket.outOf (b : Basket) (k : String) : Basket :=
  if b.store = some k then { b with store := none } else b

namespace Shop

open Act

/-- The shop after a store has closed. -/
def closed (shop : Shop) (k : String) : Shop :=
  { shop with
    stores := shop.stores.erase k
    customers := shop.customers.mapValues fun _ c => c.outOf k
    baskets := shop.baskets.mapValues fun _ b => b.outOf k }

/-- No trace of a store is left: nobody and nothing is in it, it cannot be shown and cannot be
    closed again, and if it opens it is bare. -/
structure Vanished (shop : Shop) (k : String) : Prop where
  customers : ∀ c r spot, shop.customers.get? c = some r → r.spot = some spot → spot.store ≠ k
  baskets : ∀ b r, shop.baskets.get? b = some r → r.store ≠ some k
  inventory : ∀ i r, shop.inventory? (some i) = some r → r.spot.store ≠ k
  stock : ∀ p, ∀ r ∈ shop.stockOf p, r.spot.store ≠ k
  devices : ∀ d r, shop.device? (some d) = some r → r.spot.store ≠ k
  refused : ∀ token op, isToken token = true →
    op = .showStore (some k) ∨ op = .deleteStore (some k) →
    run token op shop = (.error (.failure op.action (.absent .store k)), shop)
  reopened : ∀ token name address, isToken token = true →
    run token (.provisionStore (some k) (some name) (some address)) shop =
      (.ok (.store (.bare k address name)), shop.putStore (.bare k address name))

/-- An inventory of this id is found neither by the id nor by its product, and one can be placed on
    every shelf of every store. -/
structure InventoryFree (shop : Shop) (i : String) : Prop where
  unfound : shop.inventory? (some i) = none
  unstocked : ∀ p, ∀ r ∈ shop.stockOf p, r.id ≠ i
  provisioned : ∀ (token type : Option String) (k n b p : String) (s : Store) (a : Aisle)
    (board : Shelf) (item : Product) (most units : Int) (sort : InventoryType) (r : Inventory),
    isToken token = true → shop.stores.get? k = some s → s.aisles.get? n = some a →
    a.shelves.get? b = some board → shop.products.get? p = some item →
    0 ≤ units → units ≤ most → type.elim (some .standard) Choice.read? = some sort →
    r = ⟨i, ⟨k, n, b⟩, most, units, p, sort⟩ →
    run token
        (.provisionInventory (some i) (some k) (some n) (some b) (some most) (some units) (some p)
          type) shop =
      (.ok (.inventory r), shop.putStore { s with inventory := s.inventory.insert i r })

/-- A device of this id is not found, and one can be installed in every aisle of every store. -/
structure DeviceFree (shop : Shop) (d : String) : Prop where
  unfound : shop.device? (some d) = none
  provisioned : ∀ (token : Option String) (name type k n : String) (kind : DeviceKind) (s : Store)
    (a : Aisle) (r : Device), isToken token = true → classifyDevice type = .ok kind →
    shop.stores.get? k = some s → s.aisles.get? n = some a →
    r = ⟨d, name, Choice.fold type, kind, ⟨k, n⟩⟩ →
    run token (.provisionDevice (some d) (some name) type (some k) (some n)) shop =
      (.ok (.device r), shop.putStore { s with devices := s.devices.insert d r })

/-- In a run something was registered at a place. -/
def Puts (shop : Shop) (calls : List (Option String × Operation)) (place : Place) : Prop :=
  ∃ op ∈ done shop calls, ∃ record, Registers op place record

variable {shop : Shop} {token : Option String} {k : String} {s : Store}

/-- Nobody is missed when a store closes. -/
theorem Sound.without_eq_closed (hsound : shop.Sound) (hs : shop.stores.get? k = some s) :
    shop.without s = shop.closed k := by
  unfold without closed
  rw [(hsound.store_self hs).1]
  have hcustomers : (shop.customers.mapValues fun id c =>
      if s.customers.get? id = some .current ∧ c.spot.map AisleSpot.store = some k then
        { c with spot := none }
      else c) = shop.customers.mapValues fun _ c => c.outOf k := by
    refine Keyed.mapValues_congr _ fun c r hr => ?_
    unfold Customer.outOf
    by_cases hin : r.spot.map AisleSpot.store = some k
    · -- Whoever is in the store is on its list.
      have hlists := hsound.placed.customers k s hs
      have hlisted := (hlists.contains_iff c).2 ((storeOf_of_get? hr).trans hin)
      rcases (Keyed.contains_iff _ _).1 hlisted with ⟨l, hl⟩
      rw [if_pos hin, if_pos ⟨hl.trans (congrArg some (hlists.current c l hl)), hin⟩]
    · rw [if_neg hin, if_neg fun hboth => hin hboth.2]
  rw [hcustomers]
  rfl

/-- A store that is there is closed when it is asked for with a token. -/
theorem Sound.run_deleteStore (hsound : shop.Sound) (htoken : isToken token = true)
    (hs : shop.stores.get? k = some s) :
    Shop.run token (.deleteStore (some k)) shop = (.ok .nothing, shop.closed k) := by
  rw [← hsound.without_eq_closed hs]
  exact (run_eq_ok_iff_step hsound rfl).2 ⟨htoken, .closeStore hs⟩

/-- A look at a store that is not there ends with that. -/
theorem runIn_theStore_none (action : String) (hk : shop.stores.get? k = none) :
    (theStore action (some k)).runIn shop =
      (.error (.failure action (.absent .store k)), shop) := by
  change (found action .store (some k) (shop.stores.get? k)).runIn shop = _
  rw [hk]
  rfl

/-- A store that is not there has left no trace. -/
theorem Sound.vanished (hsound : shop.Sound) (hk : shop.stores.get? k = none) :
    shop.Vanished k := by
  have hfloor := hsound.filed.floor
  -- What a search finds stands in a store that is there.
  have hkeeps : ∀ r, shop.Keeps r → r.spot.store ≠ k := by
    rintro r ⟨t, ht, -⟩ hstore
    rw [hstore, hk] at ht
    cases ht
  constructor
  · intro c r spot hr hspot hstore
    refine hsound.placed.storeOf_ne hk c ?_
    rw [storeOf_of_get? hr, hspot, Option.map_some, hstore]
  · intro b r hr hstore
    refine hsound.placed.cartOf_ne hk b ?_
    rw [cartOf_of_get? hr, hstore]
  · exact fun i r hr => hkeeps r ((inventory?_eq_some_iff hfloor i r).1 hr).1
  · exact fun p r hr => hkeeps r ((mem_stockOf_iff hfloor p r).1 hr).1
  · intro d r hr hstore
    rcases (device?_eq_some_iff hfloor d r).1 hr with ⟨⟨t, ht, -⟩, -⟩
    rw [hstore, hk] at ht
    cases ht
  · rintro token op htoken (rfl | rfl)
    · rw [run_of_not_countsUnits htoken rfl]
      unfold carryOut
      dsimp only
      rw [runIn_map, runIn_theStore_none _ hk]
    · rw [run_of_not_countsUnits htoken rfl]
      unfold carryOut closeStore
      dsimp only
      rw [runIn_map, runIn_bind, runIn_theStore_none _ hk]
  · exact fun token name address htoken => (run_eq_ok_iff_step hsound rfl).2 ⟨htoken, .openStore hk⟩

/-- An inventory that is not found can be registered, in any store. -/
theorem Sound.inventoryFree (hsound : shop.Sound) {i : String}
    (hi : shop.inventory? (some i) = none) : shop.InventoryFree i := by
  have hfloor := hsound.filed.floor
  refine ⟨hi, fun p r hr hid => ?_, ?_⟩
  · have hkeeps := ((mem_stockOf_iff hfloor p r).1 hr).1
    have hfound := (inventory?_eq_some_iff hfloor i r).2 ⟨hkeeps, hid⟩
    rw [hi] at hfound
    cases hfound
  · intro token type k n b p s a board item most units sort r htoken hs ha hb hp h0 hm ht hr
    have hfiled := hfloor.filed k s hs
    have haisle := hfiled.2.aisles n a ha
    have hsi := (inventory?_eq_none_iff i).1 hi k s hs
    refine (run_eq_ok_iff_step hsound rfl).2 ⟨htoken,
      .addInventory type hs ha hb h0 hm hp ht hi hsi ?_⟩
    -- The records that the new one names are under the ids that the caller gave.
    rw [hfiled.1, haisle.1, haisle.2 b board hb, hsound.filed.products p item hp]
    exact hr

/-- A device that is not found can be installed, in any store. -/
theorem Sound.deviceFree (hsound : shop.Sound) {d : String} (hd : shop.device? (some d) = none) :
    shop.DeviceFree d := by
  refine ⟨hd, fun token name type k n kind s a r htoken hkind hs ha hr => ?_⟩
  have hfiled := hsound.filed.floor.filed k s hs
  have hsd := (device?_eq_none_iff d).1 hd k s hs
  refine (run_eq_ok_iff_step hsound rfl).2 ⟨htoken, .installDevice hkind hs ha hd hsd ?_⟩
  rw [hfiled.1, (hfiled.2.aisles n a ha).1]
  exact hr

/-- What was not there before a run and was not registered in it is not there afterwards. -/
theorem Sound.provisioned?_runAll_eq_none (hsound : shop.Sound)
    {calls : List (Option String × Operation)} {place : Place}
    (hnone : shop.provisioned? place = none)
    (hno : ¬ Puts shop calls place) : (Shop.runAll shop calls).provisioned? place = none := by
  refine Option.eq_none_iff_forall_ne_some.2 fun record hrecord => ?_
  -- A record at the end was there at first or was registered on the way; here it was neither.
  rcases (hsound.trace calls).provisioned?_eq_some hsound hrecord with hthere | ⟨op, hop, hput⟩
  · rw [hnone] at hthere
    cases hthere
  · exact hno ⟨op, hop, record, hput⟩

/-- A store that is not provisioned is not there. -/
theorem provisioned?_itself_eq_none_iff :
    shop.provisioned? (.fitting k .itself) = none ↔ shop.stores.get? k = none := by
  unfold provisioned?
  dsimp only
  cases shop.stores.get? k with
  | none => exact ⟨fun _ => rfl, fun _ => rfl⟩
  | some s => exact ⟨nofun, nofun⟩

/-- There is nothing at a place in any store, if no store that is there has it. -/
theorem forall_provisioned?_eq_none_iff (f : Fitting) :
    (∀ x, shop.provisioned? (.fitting x f) = none) ↔
      ∀ x s, shop.stores.get? x = some s → s.provisioned? f = none :=
  forall_congr' fun _ => Option.bind_eq_none_iff

/-- An inventory that is provisioned in no store is not found. -/
theorem inventory?_eq_none_iff_provisioned? (i : String) :
    shop.inventory? (some i) = none ↔ ∀ x, shop.provisioned? (.fitting x (.inventory i)) = none := by
  rw [inventory?_eq_none_iff, forall_provisioned?_eq_none_iff]
  unfold Store.provisioned?
  simp only [Option.map_eq_none_iff]

/-- A device that is provisioned in no store is not found. -/
theorem device?_eq_none_iff_provisioned? (d : String) :
    shop.device? (some d) = none ↔ ∀ x, shop.provisioned? (.fitting x (.device d)) = none := by
  rw [device?_eq_none_iff, forall_provisioned?_eq_none_iff]
  unfold Store.provisioned?
  simp only [Option.map_eq_none_iff]

/-- What a store has under an id no other store has. -/
theorem get?_erase_eq_none {α : Type} {stores : Keyed Store} {f : Store → Keyed α}
    (happart : stores.Apart f) (hs : stores.get? k = some s) {i : String}
    (hi : (f s).contains i = true) (x : String) (t : Store)
    (ht : (stores.erase k).get? x = some t) : (f t).get? i = none := by
  rw [Keyed.get?_erase] at ht
  by_cases hx : x = k
  · rw [if_pos hx] at ht
    cases ht
  · rw [if_neg hx] at ht
    refine (Keyed.contains_eq_false_iff _ _).1 (Bool.eq_false_iff.2 fun hti => ?_)
    exact hx (happart x k t s i ht hs hti hi)

/-- A store that closes leaves no trace. Closing it succeeds, and changes nothing but what
    `Shop.closed` names. Afterwards nobody and nothing is in the store and it is not there for
    anybody who asks, until it is opened again, bare. What it owned is not found by id or by
    product until something is registered under the id, which can be done in any store. -/
theorem closes_without_trace (h : Reachable shop) (htoken : isToken token = true)
    (hs : shop.stores.get? k = some s) :
    run token (.deleteStore (some k)) shop = (.ok .nothing, shop.closed k) ∧
    ∀ calls, let later := Shop.runAll (shop.closed k) calls
      (¬ Puts (shop.closed k) calls (.fitting k .itself) → later.Vanished k) ∧
      (∀ i, s.inventory.contains i = true →
        (∀ x, ¬ Puts (shop.closed k) calls (.fitting x (.inventory i))) →
        later.InventoryFree i) ∧
      (∀ d, s.devices.contains d = true →
        (∀ x, ¬ Puts (shop.closed k) calls (.fitting x (.device d))) → later.DeviceFree d) := by
  have hrun := h.sound.run_deleteStore htoken hs
  have hclosed : (shop.closed k).Sound := by
    have hnext := h.sound.run token (.deleteStore (some k))
    rwa [hrun] at hnext
  have hfloor := h.sound.filed.floor
  refine ⟨hrun, fun calls => ?_⟩
  have hlater := (hclosed.trace calls).sound hclosed
  -- What was provisioned in the store is deleted, and nothing of it is registered again.
  refine ⟨fun hno => hlater.vanished ?_, fun i hi hno => hlater.inventoryFree ?_,
    fun d hd hno => hlater.deviceFree ?_⟩
  · refine provisioned?_itself_eq_none_iff.1 (hclosed.provisioned?_runAll_eq_none ?_ hno)
    exact provisioned?_itself_eq_none_iff.2 (Keyed.get?_erase_self _ _)
  · refine (inventory?_eq_none_iff_provisioned? i).2 fun x => ?_
    refine hclosed.provisioned?_runAll_eq_none ((inventory?_eq_none_iff_provisioned? i).1 ?_ x)
      (hno x)
    exact (inventory?_eq_none_iff i).2 (get?_erase_eq_none hfloor.inventory hs hi)
  · refine (device?_eq_none_iff_provisioned? d).2 fun x => ?_
    refine hclosed.provisioned?_runAll_eq_none ((device?_eq_none_iff_provisioned? d).1 ?_ x) (hno x)
    exact (device?_eq_none_iff d).2 (get?_erase_eq_none hfloor.devices hs hd)

/-- After the morning the store with the bread closes. While the other store gets an aisle and a
    shelf, the ids of the store, of its stock and of its camera stay free. -/
theorem closed_after_morning :
    let ask op := (some "key", op)
    let shop := Shop.runAll .empty (morning ++
      [ask (.provisionDevice (some "d1") (some "Door") "camera" (some "north") (some "1"))])
    let calls := [ask (.provisionAisle (some "south") (some "7") (some "Bread") none none),
      ask (.provisionShelf (some "south") (some "7") (some "z") (some "Top") (some "high") none
        (some "ambient"))]
    let later := Shop.runAll (shop.closed "north") calls
    run (some "key") (.deleteStore (some "north")) shop = (.ok .nothing, shop.closed "north") ∧
      later.Vanished "north" ∧ later.InventoryFree "i1" ∧ later.DeviceFree "d1" := by
  intro ask shop calls later
  have howned : ((shop.stores.get? "north").map fun s =>
      (s.inventory.contains "i1", s.devices.contains "d1")) = some (true, true) := by decide +kernel
  rcases Option.map_eq_some_iff.1 howned with ⟨s, hs, hboth⟩
  rcases Prod.mk.inj hboth with ⟨hi, hd⟩
  have htoken : isToken (some "key") = true := by decide
  have hclosing := closes_without_trace (Reachable.empty.runAll _) htoken hs
  -- All that the calls can put up is an aisle and a shelf.
  have hputs : ∀ place, Puts (shop.closed "north") calls place →
      place = .fitting "south" (.aisle "7") ∨ place = .fitting "south" (.shelf "7" "z") := by
    rintro place ⟨op, hop, record, hput⟩
    rcases exists_call_of_mem_done hop with ⟨call, hcall, rfl⟩
    simp only [calls, List.mem_cons, List.not_mem_nil, or_false] at hcall
    rcases hcall with rfl | rfl
    · cases hput
      exact Or.inl rfl
    · cases hput
      exact Or.inr rfl
  have hlater := hclosing.2 calls
  refine ⟨hclosing.1, hlater.1 fun hput => ?_, hlater.2.1 "i1" hi fun x hput => ?_,
    hlater.2.2 "d1" hd fun x hput => ?_⟩
  all_goals simpa using hputs _ hput

end Shop

end Shopfloor
