import Shopfloor.Proofs.Provisioned
/-!
# What Lasts

What was provisioned of a record stays until the store is deleted that it
belongs to, and everybody who looks sees it.

Provisioned data has been described one step at a time: a step registers a
record, deletes those of a store, or keeps all as they are. A record is only
registered where none is, so it never takes the place of another, and it only
goes when its store is deleted. Over a run this means that provisioned data is
still there unless the history of the run holds the deletion of its store.
Products, customers and baskets are in no store, so theirs is there for good.

What is left are the details of a store, its description and its address. They
are written when the store is provisioned and changed by whoever updates it.
What they come to is read off the history as well: `Operation.updateDetails` says
what one operation makes of the details of a store, and a run is the fold of it.

## Main definitions

* `Details`, `Details.updated`: The description and the address of a store, and how they change.
* `Operation.updateDetails`: What an operation makes of the details of a store.
* `Shows`: The operation that looks at what is registered at a place.
* `Reply.provisioned?`: The provisioned data of the record that is answered.

## Theorems

* `Provisioning.keeps_provisioned`: Provisioned data stays unless its store is deleted.
* `Step.detailsOf`: What a step makes of the details of a store.
* `Trace.keeps_provisioned`, `Trace.detailsOf`: The same of a run.
* `query_of_shows`, `Sound.shown_provisioned`: Whoever looks at a place sees what was
  provisioned there.
* `provisions_last`: What is registered lasts, and is what is shown.
-/

namespace Shopfloor

/-- The description and the address of a store. -/
structure Details where
  description : String
  address : String
deriving DecidableEq

/-- Details of which is replaced what is given of others. -/
def Details.updated (w : Details) (description address : Option String) : Details :=
  ⟨description.getD w.description, address.getD w.address⟩

/-- The details of a store. -/
def Store.details (s : Store) : Details := ⟨s.description, s.address⟩

/-- What an operation that succeeds makes of the details of a store, if there is such a store. -/
def Operation.updateDetails (k : String) : Operation → Option Details → Option Details
  | .provisionStore id (some name) (some address), w =>
    if id = some k then some ⟨name, address⟩ else w
  | .updateStore id description address, w =>
    if id = some k then w.map fun w => w.updated description address else w
  | .deleteStore id, w => if id = some k then none else w
  | _, w => w

/-- An operation looks at what is registered at a place. -/
inductive Shows : Operation → Place → Prop
  | store (k : String) : Shows (.showStore (some k)) (.fitting k .itself)
  | aisle (k n : String) : Shows (.showAisle (some k) (some n)) (.fitting k (.aisle n))
  | shelf (k n i : String) : Shows (.showShelf (some k) (some n) (some i)) (.fitting k (.shelf n i))
  | inventory (k i : String) : Shows (.showInventory (some i)) (.fitting k (.inventory i))
  | device (k i : String) : Shows (.showDevice (some i)) (.fitting k (.device i))
  | product (i : String) : Shows (.showProduct (some i)) (.product i)
  | customer (i : String) : Shows (.showCustomer (some i)) (.customer i)
  | basket (i : String) : Shows (.showBasket (some i)) (.basket i)

/-- The provisioned data of the record that is answered. -/
def Reply.provisioned? : Reply → Option Provisioned
  | .store s => some (.store s.id)
  | .aisle a => some a.provisioned
  | .shelf b => some (.shelf b)
  | .product p => some (.product p)
  | .inventory i => some i.provisioned
  | .customer c => some c.provisioned
  | .basket b => some (.basket b.id)
  | .device d => some (.device d)
  | .event _ | .nothing => none

/-- Provisioned data stays unless its store is deleted. -/
theorem Provisioning.keeps_provisioned {op : Operation} {before after : Place → Option Provisioned}
    (h : Provisioning op before after) {place : Place} {record : Provisioned}
    (hrecord : before place = some record)
    (hopen : ∀ k, place.store? = some k → op ≠ .deleteStore (some k)) :
    after place = some record := by
  cases h with
  | @registers there _ _ hfree hafter =>
      -- Nothing is registered where something is.
      have hne : place ≠ there := by
        rintro rfl
        rw [hfree] at hrecord
        cases hrecord
      rw [hafter, if_neg hne, hrecord]
  | deletes hclose hafter => rw [hafter, if_neg fun hin => hopen _ hin hclose, hrecord]
  | keeps hafter => rw [hafter, hrecord]

namespace Shop

variable {shop shop' : Shop}

/-- The details of the store with an id, if there is one. -/
def detailsOf (shop : Shop) (k : String) : Option Details :=
  (shop.stores.get? k).map Store.details

theorem detailsOf_of_get? {k : String} {s : Store} (hs : shop.stores.get? k = some s) :
    shop.detailsOf k = some s.details :=
  congrArg (Option.map Store.details) hs

theorem detailsOf_putStore (s : Store) (k : String) :
    (shop.putStore s).detailsOf k = if k = s.id then some s.details else shop.detailsOf k :=
  Keyed.map_get?_insert shop.stores Store.details (fun _ _ => id) s.id k s

/-- A store that is written over another with the same details. -/
theorem detailsOf_putStore_of_details {k x : String} {s s' : Store}
    (hs : shop.stores.get? k = some s) (hid : s'.id = k) (hw : s'.details = s.details) :
    (shop.putStore s').detailsOf x = shop.detailsOf x := by
  rw [detailsOf_putStore, hid]
  by_cases hx : x = k
  · rw [if_pos hx, hx, hw, detailsOf_of_get? hs]
  · rw [if_neg hx]

/-- Stores that change in something else than their details. -/
theorem detailsOf_mapValues {f : String → Store → Store}
    (hstores : shop'.stores = shop.stores.mapValues f) (hf : ∀ k s, (f k s).details = s.details)
    (k : String) : shop'.detailsOf k = shop.detailsOf k := by
  unfold detailsOf
  rw [hstores]
  exact Keyed.map_get?_mapValues _ _ (fun k s _ => hf k s) k

/-- New counts change no details. -/
theorem detailsOf_recount (n : Inventory → Int) (k : String) :
    (shop.recount n).detailsOf k = shop.detailsOf k := by
  unfold detailsOf
  rw [recount_eq]
  refine Keyed.map_get?_mapValues _ _ ?_ k
  exact fun _ _ _ => rfl

theorem detailsOf_putInventory (i : Inventory) (k : String) :
    (shop.putInventory i).detailsOf k = shop.detailsOf k := by
  unfold detailsOf putInventory Keyed.adjust
  refine Keyed.map_get?_mapValues _ _ (fun x s _ => ?_) k
  split <;> rfl

/-- What looks only changes no details. -/
theorem updateDetails_of_query {op : Operation} {r : Reply} (h : shop.query op = some r) (k : String)
    (w : Option Details) : op.updateDetails k w = w := by
  cases op <;> first
    | rfl
    | cases h

/-- Moving units changes no details. -/
theorem updateDetails_of_countsUnits {op : Operation} (h : op.countsUnits = true) (k : String)
    (w : Option Details) : op.updateDetails k w = w := by
  cases op <;> first
    | rfl
    | cases h

/-- What a step makes of the details of a store. -/
theorem Step.detailsOf {op : Operation} {r : Reply} (h : Step shop op r shop')
    (hsound : shop.Sound) (x : String) :
    shop'.detailsOf x = op.updateDetails x (shop.detailsOf x) := by
  have hids := hsound.filed.baskets
  cases h with
  | query hquery => exact (updateDetails_of_query hquery x _).symm
  -- A store that is opened has new details, and a store that is updated keeps what was not given.
  | @openStore k name address _ =>
      rw [detailsOf_putStore]
      unfold Store.bare Operation.updateDetails
      dsimp only
      by_cases hx : x = k
      · rw [if_pos hx, if_pos (congrArg some hx.symm)]
        rfl
      · rw [if_neg hx, if_neg fun he => hx (Option.some.inj he).symm]
  | @updateStore k s s' description address hs hs' =>
      have hid : s'.id = k := by
        rw [hs']
        exact (hsound.store_self hs).1
      rw [detailsOf_putStore, hid]
      dsimp only [Operation.updateDetails]
      by_cases hx : x = k
      · -- Only what was given is written.
        rw [if_pos hx, if_pos (congrArg some hx.symm), hx, detailsOf_of_get? hs, hs']
        rfl
      · rw [if_neg hx, if_neg fun he => hx (Option.some.inj he).symm]
  | @closeStore k s hs =>
      unfold Shop.detailsOf without
      dsimp only [Operation.updateDetails]
      rw [Keyed.get?_erase, (hsound.store_self hs).1]
      by_cases hx : x = k
      · rw [if_pos hx, if_pos (congrArg some hx.symm)]
        rfl
      · rw [if_neg hx, if_neg fun he => hx (Option.some.inj he).symm]
  -- Everything else writes stores back with the details they had.
  | openAisle _ _ hs _ _ _ =>
      exact detailsOf_putStore_of_details hs (hsound.store_self hs).1 rfl
  | putUpShelf _ _ _ hs _ _ _ _ _ =>
      exact detailsOf_putStore_of_details hs (hsound.store_self hs).1 rfl
  | addInventory _ hs _ _ _ _ _ _ _ _ _ =>
      exact detailsOf_putStore_of_details hs (hsound.store_self hs).1 rfl
  | installDevice _ hs _ _ _ _ =>
      exact detailsOf_putStore_of_details hs (hsound.store_self hs).1 rfl
  | adjustInventory _ _ _ _ => exact detailsOf_putInventory _ x
  | takeIntoBasket _ _ _ _ _ _ _ _ _ _ => exact detailsOf_putInventory _ x
  | putBackFromBasket _ _ _ _ _ _ _ _ _ _ _ _ => exact detailsOf_putInventory _ x
  | @emptyBasket _ b _ =>
      exact detailsOf_recount _ x
  | moveCustomer _ hs _ =>
      refine detailsOf_mapValues (stores_afterMove hids (hsound.store_self hs).2) ?_ x
      exact fun _ _ => rfl
  | assignBasket hc hb _ _ _ =>
      refine detailsOf_mapValues (stores_afterAssign hsound.placed (hsound.customer_self hc).2
        (hsound.basket_self hb).2) ?_ x
      exact fun _ _ => rfl
  | _ => rfl

/-- Provisioned data stays over a run unless its store is deleted in it. -/
theorem Trace.keeps_provisioned {deeds : List Deed} (h : Trace shop deeds shop')
    (hsound : shop.Sound) {place : Place} {record : Provisioned}
    (hrecord : shop.provisioned? place = some record)
    (hopen : ∀ k, place.store? = some k → .deleteStore (some k) ∉ deeds.map Deed.op) :
    shop'.provisioned? place = some record := by
  induction h with
  | nil _ => exact hrecord
  | cons hstep _ ih =>
      have hnext := (hstep.provisioning hsound).keeps_provisioned hrecord fun k hk hop =>
        hopen k hk (hop ▸ List.mem_cons_self)
      exact ih (hstep.sound hsound) hnext fun k hk hlater =>
        hopen k hk (List.mem_cons_of_mem _ hlater)
  | unlogged hstep hop _ ih =>
      -- What moves units closes no store.
      refine ih (hstep.sound hsound) ((hstep.provisioning hsound).keeps_provisioned hrecord ?_) hopen
      rintro k - rfl
      cases hop

/-- The details of a store after operations that succeeded, one after the other. -/
theorem Trace.detailsOf {deeds : List Deed} (h : Trace shop deeds shop') (hsound : shop.Sound)
    (k : String) :
    shop'.detailsOf k =
      (deeds.map Deed.op).foldl (fun w op => op.updateDetails k w) (shop.detailsOf k) :=
  h.foldl (fun shop => shop.detailsOf k) (fun hstep hsound => hstep.detailsOf hsound k)
    (fun w _ hop => updateDetails_of_countsUnits hop k w) hsound

/-- Whoever looks at a place sees what was provisioned there. -/
theorem query_of_shows (hf : Filing shop.stores) {look : Operation} {place : Place}
    {record : Provisioned} (hlook : Shows look place)
    (hrecord : shop.provisioned? place = some record) :
    ∃ r, shop.query look = some r ∧ r.provisioned? = some record := by
  -- Every place is read in the stores one level at a time, and so is the question about it.
  cases hlook with
  | store k =>
      rcases Option.bind_eq_some_iff.1 hrecord with ⟨s, hs, hp⟩
      exact ⟨.store s, congrArg (Option.map Reply.store) hs, hp⟩
  | aisle k n =>
      rcases Option.bind_eq_some_iff.1 hrecord with ⟨s, hs, hp⟩
      rcases Option.map_eq_some_iff.1 hp with ⟨a, ha, rfl⟩
      refine ⟨.aisle a, ?_, rfl⟩
      dsimp only [query]
      rw [Keyed.find?_some, hs, Option.bind_some, Keyed.find?_some, ha, Option.map_some]
  | shelf k n i =>
      rcases Option.bind_eq_some_iff.1 hrecord with ⟨s, hs, hp⟩
      rcases Option.map_eq_some_iff.1 hp with ⟨b, hb, rfl⟩
      rcases Option.bind_eq_some_iff.1 hb with ⟨a, ha, hi⟩
      refine ⟨.shelf b, ?_, rfl⟩
      dsimp only [query]
      rw [Keyed.find?_some, hs, Option.bind_some, Keyed.find?_some, ha, Option.bind_some,
        Keyed.find?_some, hi, Option.map_some]
  | inventory k i =>
      rcases Option.bind_eq_some_iff.1 hrecord with ⟨s, hs, hp⟩
      rcases Option.map_eq_some_iff.1 hp with ⟨j, hj, rfl⟩
      -- The search goes through all stores, and no other one has the id.
      rcases keeps_of_get? hf hs hj with ⟨hkept, hid, -⟩
      have hfound := (inventory?_eq_some_iff hf i j).2 ⟨hkept, hid⟩
      exact ⟨.inventory j, congrArg (Option.map Reply.inventory) hfound, rfl⟩
  | device k i =>
      rcases Option.bind_eq_some_iff.1 hrecord with ⟨s, hs, hp⟩
      rcases Option.map_eq_some_iff.1 hp with ⟨d, hd, rfl⟩
      rcases keepsDevice_of_get? hf hs hd with ⟨hkept, hid, -⟩
      have hfound := (device?_eq_some_iff hf i d).2 ⟨hkept, hid⟩
      exact ⟨.device d, congrArg (Option.map Reply.device) hfound, rfl⟩
  | product i =>
      rcases Option.map_eq_some_iff.1 hrecord with ⟨p, hp, rfl⟩
      exact ⟨.product p, congrArg (Option.map Reply.product) hp, rfl⟩
  | customer i =>
      rcases Option.map_eq_some_iff.1 hrecord with ⟨c, hc, rfl⟩
      exact ⟨.customer c, congrArg (Option.map Reply.customer) hc, rfl⟩
  | basket i =>
      rcases Option.map_eq_some_iff.1 hrecord with ⟨b, hb, rfl⟩
      exact ⟨.basket b, congrArg (Option.map Reply.basket) hb, rfl⟩

/-- Whoever looks at a place with a token is shown what was provisioned there. -/
theorem Sound.shown_provisioned (hsound : shop.Sound) {place : Place} {record : Provisioned}
    (hrecord : shop.provisioned? place = some record) {token : Option String}
    (htoken : isToken token = true) {look : Operation} (hlook : Shows look place) :
    ∃ r, Shop.run token look shop = (.ok r, shop) ∧ r.provisioned? = some record := by
  rcases query_of_shows hsound.filed.floor hlook hrecord with ⟨r, hquery, hr⟩
  exact ⟨r, run_of_query htoken hquery, hr⟩

/-- What is registered lasts. Over any run from a reachable shop all provisioned data stays whose
    store the run does not delete, and the details of stores are what provisioning and updates make
    of them. So after an operation has registered something, whatever is done until its store is
    deleted, whoever looks there is shown what was registered. -/
theorem provisions_last (h : Reachable shop) (calls : List (Option String × Operation)) :
    (∀ place record, shop.provisioned? place = some record →
      (∀ k, place.store? = some k → .deleteStore (some k) ∉ done shop calls) →
      (Shop.runAll shop calls).provisioned? place = some record) ∧
    (∀ k, (Shop.runAll shop calls).detailsOf k =
      (done shop calls).foldl (fun w op => op.updateDetails k w) (shop.detailsOf k)) ∧
    (∀ token op r place record, (Shop.run token op shop).1 = .ok r → Registers op place record →
      (∀ k, place.store? = some k →
        .deleteStore (some k) ∉ done (Shop.run token op shop).2 calls) →
      ∀ token' look, isToken token' = true → Shows look place →
        ∃ r', (Shop.run token' look (Shop.runAll (Shop.run token op shop).2 calls)).1 = .ok r' ∧
          r'.provisioned? = some record) ∧
    (∀ k w token, (Shop.runAll shop calls).detailsOf k = some w → isToken token = true →
      ∃ s, (Shop.run token (.showStore (some k)) (Shop.runAll shop calls)).1 = .ok (.store s) ∧
        s.details = w) := by
  have hsound := h.sound
  have htrace := hsound.trace calls
  refine ⟨fun place record => htrace.keeps_provisioned hsound, htrace.detailsOf hsound, ?_, ?_⟩
  · intro token op r place record hok hput hopen token' look htoken hlook
    rcases hrun : Shop.run token op shop with ⟨result, next⟩
    rw [hrun] at hok hopen
    dsimp only at hok hopen ⊢
    subst hok
    -- The record is registered, stays, and is shown.
    have hstep := run_ok hsound hrun
    have hrecord : next.provisioned? place = some record := by
      rw [(hstep.registers hsound hput).after, if_pos rfl]
    have hnext := hstep.sound hsound
    have hlasts := (hnext.trace calls).keeps_provisioned hnext hrecord hopen
    rcases ((hnext.trace calls).sound hnext).shown_provisioned hlasts htoken hlook with
      ⟨r', hshown, hr'⟩
    exact ⟨r', congrArg Prod.fst hshown, hr'⟩
  · intro k w token hw htoken
    rcases Option.map_eq_some_iff.1 hw with ⟨s, hs, hdetails⟩
    have hquery : (Shop.runAll shop calls).query (.showStore (some k)) = some (.store s) :=
      congrArg (Option.map Reply.store) hs
    exact ⟨s, congrArg Prod.fst (run_of_query htoken hquery), hdetails⟩

/-- A basket is registered after the morning. When one of the stores has closed and the other has
    another description, the basket is shown as it was registered, and the address of the store is
    what it was in the morning. -/
theorem basket_shown_later :
    let shop := Shop.runAll .empty morning
    let next := (Shop.run (some "key") (.provisionBasket (some "b2")) shop).2
    let calls := [(some "key", .deleteStore (some "north")),
      (some "key", .updateStore (some "south") (some "South Hall") none)]
    (∃ r, (Shop.run (some "key") (.showBasket (some "b2")) (Shop.runAll next calls)).1 = .ok r ∧
      r.provisioned? = some (.basket "b2")) ∧
    (Shop.runAll shop calls).detailsOf "south" = some ⟨"South Hall", "2 Gate Road"⟩ := by
  intro shop next calls
  have h := provisions_last (Reachable.empty.runAll morning) calls
  have hok : (Shop.run (some "key") (.provisionBasket (some "b2")) shop).1 =
      .ok (.basket ⟨"b2", none, none, .empty⟩) := by decide +kernel
  have hbefore : shop.detailsOf "south" = some ⟨"South Gate", "2 Gate Road"⟩ := by decide +kernel
  have hdone : done shop calls = calls.map Prod.snd := by decide +kernel
  refine ⟨h.2.2.1 _ _ _ _ _ hok (.basket "b2") nofun _ _ (by decide +kernel) (.basket "b2"), ?_⟩
  rw [h.2.1, hbefore, hdone]
  rfl

end Shop

end Shopfloor
