import Shopfloor.Proofs.Act.Handover
/-!
# Steps That Are Taken

An operation whose step is there to be taken takes it.

`Step` says what an operation has done when it has succeeded. Nothing in it says
that the operation does succeed: an act with one more check than its step names
would still take no other step. The converse is proved here. What a step names as
found is found, what it names as free is free, and what it names as checked passes
the check, so the act goes through all of it and writes the shop that the step
names.

Both directions together make the step an exact account of success. Whether an
operation goes through, and what comes of it, can be read off the records of the
shop, and no proof that one can be carried out looks into an act again.

## Theorems

* `succeeds_bind_found`: A look at what is there.
* `succeeds_unless_taken`, `succeeds_unless_other`: Refusals that do not apply.
* `place_succeeds`: A place that can be read.
* `openStore_succeeds`, `openAisle_succeeds`, `putUpShelf_succeeds`, `addProduct_succeeds`,
  `addInventory_succeeds`, `addCustomer_succeeds`, `addBasket_succeeds`, `installDevice_succeeds`:
  Provisioning.
* `moveCustomer_succeeds`, `assignBasket_succeeds`: Movement.
* `Step.succeeds`: A step that is there is taken.
* `run_eq_ok_iff`, `run_eq_ok_iff_step`: An operation succeeds exactly by its step.
-/

namespace Shopfloor

namespace Shop

open Act

variable {shop shop' : Shop} (action : String)

section Looks

variable {α β : Type} {Q : α → Shop → Prop}

/-- A look at what is there finds it, and the act goes on in the same shop. -/
theorem succeeds_bind_found {look : Shop → Option β} {b : β} {f : β → Act α} (noun : Noun)
    (id : Option String) (hb : look shop = some b) (h : (f b).Succeeds shop Q) :
    ((get >>= fun shop => found action noun id (look shop)) >>= f).Succeeds shop Q := by
  refine succeeds_bind (succeeds_bind_get ?_)
  rw [hb]
  exact succeeds_pure h

/-- An id that is free is not refused as taken. -/
theorem succeeds_unless_taken {x : Option β} {c : Cause} {rest : Unit → Act α} (hx : x = none)
    (h : (rest ()).Succeeds shop Q) :
    (if x.isSome = true then fail action c >>= rest else rest ()).Succeeds shop Q := by
  subst hx
  exact h

/-- What is bound to this one already, or to nobody, is not refused as bound to another. -/
theorem succeeds_unless_other {x : Option String} {own : String} {cause : String → Cause}
    {rest : Unit → Act α} (hx : ∀ y, x = some y → y = own) (h : (rest ()).Succeeds shop Q) :
    (match x with
      | some y => if y ≠ own then fail action (cause y) >>= rest else rest ()
      | none => rest ()).Succeeds shop Q := by
  cases x with
  | none => exact h
  | some y =>
      dsimp only
      rw [if_neg (not_not.2 (hx y rfl))]
      exact h

/-- A place that can be read, or is not said, is read. -/
theorem place_succeeds {location : Option String} {place : Option AisleLocation}
    {rest : Option AisleLocation → Act α} (hp : location.map Choice.read? = place.map some)
    (h : (rest place).Succeeds shop Q) :
    (match location with
      | some l => (some <$> ofExcept (Choice.require (α := AisleLocation) action (some l))) >>= rest
      | none => pure none >>= rest).Succeeds shop Q := by
  cases location with
  | none =>
      cases place with
      | none => exact h
      | some p => cases hp
  | some l =>
      cases place with
      | none => cases hp
      | some p =>
          have hread : Choice.read? (shown (some l)) = some p := Option.some.inj hp
          dsimp only
          rw [(Choice.require_eq_ok_iff action (some l) p).2 hread]
          exact h

end Looks

section Provisioning

variable {k n : String} {s : Store} {a : Aisle}

theorem openStore_succeeds {Q : Store → Shop → Prop} {name address : String}
    (hk : shop.stores.get? k = none)
    (hQ : Q (.bare k address name) (shop.putStore (.bare k address name))) :
    (openStore action (some k) (some name) (some address)).Succeeds shop Q := by
  unfold openStore
  refine succeeds_bind_get (succeeds_unless_taken action hk ?_)
  exact succeeds_bind_modify (succeeds_pure hQ)

theorem openAisle_succeeds {Q : Aisle → Shop → Prop} {name : String}
    {place : Option AisleLocation} (description location : Option String)
    (hs : shop.stores.get? k = some s) (hn : s.aisles.get? n = none)
    (hp : location.map Choice.read? = place.map some)
    (ha : a = ⟨n, name, description.getD "", place, .empty⟩)
    (hQ : Q a (shop.putStore { s with aisles := s.aisles.insert n a })) :
    (openAisle action (some k) (some n) (some name) description location).Succeeds shop Q := by
  subst ha
  unfold openAisle
  refine place_succeeds action hp (succeeds_bind_found action .store (some k) hs ?_)
  refine succeeds_bind_ofExcept ((Store.addAisle_eq_ok_iff _ _ _).2 ⟨hn, rfl⟩) ?_
  exact succeeds_bind_modify (succeeds_pure hQ)

theorem putUpShelf_succeeds {Q : Shelf → Shop → Prop} {i name : String} {b : Shelf}
    {height : ShelfLevel} {warmth : Temperature} {level description temperature : Option String}
    (hs : shop.stores.get? k = some s) (ha : s.aisles.get? n = some a)
    (hi : a.shelves.get? i = none) (hh : Choice.read? (shown level) = some height)
    (hw : Choice.read? (shown temperature) = some warmth)
    (hb : b = ⟨i, name, height, description.getD "", warmth⟩)
    (hQ : Q b (shop.putStore { s with
      aisles := s.aisles.insert a.number { a with shelves := a.shelves.insert i b } })) :
    (putUpShelf action (some k) (some n) (some i) (some name) level description
      temperature).Succeeds shop Q := by
  subst hb
  unfold putUpShelf
  refine succeeds_bind_ofExcept ((Choice.require_eq_ok_iff action _ _).2 hh) ?_
  refine succeeds_bind_ofExcept ((Choice.require_eq_ok_iff action _ _).2 hw) ?_
  refine succeeds_bind_found action .store (some k) hs ?_
  refine succeeds_bind_ofExcept ((Store.getAisle_eq_ok_iff _ _ _).2 ⟨n, rfl, ha⟩) ?_
  refine succeeds_bind_ofExcept ((Aisle.addShelf_eq_ok_iff _ _ _).2 ⟨hi, rfl⟩) ?_
  exact succeeds_bind_modify (succeeds_pure hQ)

theorem addProduct_succeeds {Q : Product → Shop → Prop} {i name : String} {x : Binary64}
    {warmth : Temperature} {p : Product} {description size category temperature : Option String}
    (hi : shop.products.get? i = none) (hx : x.isFinite = true) (h0 : x.belowZero = false)
    (hw : Choice.read? (shown temperature) = some warmth)
    (hp : p = ⟨i, name, description.getD "", size.getD "", category.getD "", x, warmth⟩)
    (hQ : Q p { shop with products := shop.products.insert i p }) :
    (addProduct action (some i) (some name) description size category (some x)
      temperature).Succeeds shop Q := by
  subst hp
  have hcharge : chargeable action (some x) = pure x := by
    unfold chargeable
    dsimp only
    rw [hx, h0]
    rfl
  unfold addProduct
  rw [hcharge, pure_bind]
  refine succeeds_bind_ofExcept ((Choice.require_eq_ok_iff action _ _).2 hw) ?_
  refine succeeds_bind_get (succeeds_unless_taken action hi ?_)
  exact succeeds_bind_modify (succeeds_pure hQ)

theorem addInventory_succeeds {Q : Inventory → Shop → Prop} {i b p : String} {board : Shelf}
    {most units : Int} {item : Product} {sort : InventoryType} {j : Inventory}
    {type : Option String} (hs : shop.stores.get? k = some s) (ha : s.aisles.get? n = some a)
    (hb : a.shelves.get? b = some board) (h0 : 0 ≤ units) (hm : units ≤ most)
    (hp : shop.products.get? p = some item)
    (ht : type.elim (some .standard) Choice.read? = some sort)
    (hi : shop.inventory? (some i) = none) (hsi : s.inventory.get? i = none)
    (hj : j = ⟨i, ⟨s.id, a.number, board.id⟩, most, units, item.id, sort⟩)
    (hQ : Q j (shop.putStore { s with inventory := s.inventory.insert i j })) :
    (addInventory action (some i) (some k) (some n) (some b) (some most) (some units) (some p)
      type).Succeeds shop Q := by
  subst hj
  have hunits : startingCount action (some units) = pure units := by
    unfold startingCount
    exact if_neg (by omega)
  have hmost : roomFor action (some most) units = pure most := by
    unfold roomFor
    exact if_neg (by omega)
  have hsort : inventoryType action type = pure sort := by
    unfold inventoryType
    cases type with
    | none =>
        cases ht
        rfl
    | some t =>
        rw [Option.elim_some, ← shown_some t] at ht
        exact congrArg Act.ofExcept ((Choice.require_eq_ok_iff action (some t) sort).2 ht)
  unfold addInventory
  refine succeeds_bind_found action .store (some k) hs ?_
  refine succeeds_bind_ofExcept ((Store.getAisle_eq_ok_iff _ _ _).2 ⟨n, rfl, ha⟩) ?_
  refine succeeds_bind_ofExcept ((Aisle.getShelf_eq_ok_iff _ _ _).2 ⟨b, rfl, hb⟩) ?_
  -- The shelf is there. The numbers, the product and the type pass their checks.
  rw [hunits, pure_bind, hmost, pure_bind]
  refine succeeds_bind_get ?_
  rw [Keyed.find?_some, hp]
  dsimp only
  rw [pure_bind, hsort, pure_bind]
  refine succeeds_bind_get (succeeds_unless_taken action hi ?_)
  refine succeeds_bind_ofExcept ((Store.addInventory_eq_ok_iff _ _ _).2 ⟨hsi, rfl⟩) ?_
  exact succeeds_bind_modify (succeeds_pure hQ)

theorem addCustomer_succeeds {Q : Customer → Shop → Prop} {i first last email account : String}
    {sort : CustomerType} {c : Customer} {type : Option String}
    (hi : shop.customers.get? i = none) (ht : Choice.read? (shown type) = some sort)
    (hc : c = ⟨i, first, last, sort, email, account, none, none, false, none⟩)
    (hQ : Q c { shop with customers := shop.customers.insert i c }) :
    (addCustomer action (some i) (some first) (some last) type (some email)
      (some account)).Succeeds shop Q := by
  subst hc
  unfold addCustomer
  refine succeeds_bind_ofExcept ((Choice.require_eq_ok_iff action _ _).2 ht) ?_
  refine succeeds_bind_get (succeeds_unless_taken action hi ?_)
  exact succeeds_bind_modify (succeeds_pure hQ)

theorem addBasket_succeeds {Q : Basket → Shop → Prop} {i : String} {b : Basket}
    (hi : shop.baskets.get? i = none) (hb : b = ⟨i, none, none, .empty⟩)
    (hQ : Q b { shop with baskets := shop.baskets.insert i b }) :
    (addBasket action (some i)).Succeeds shop Q := by
  subst hb
  unfold addBasket
  refine succeeds_bind_get (succeeds_unless_taken action hi ?_)
  exact succeeds_bind_modify (succeeds_pure hQ)

theorem installDevice_succeeds {Q : Device → Shop → Prop} {i name type : String}
    {kind : DeviceKind} {d : Device} (hk : classifyDevice type = .ok kind)
    (hs : shop.stores.get? k = some s) (ha : s.aisles.get? n = some a)
    (hi : shop.device? (some i) = none) (hsi : s.devices.get? i = none)
    (hd : d = ⟨i, name, Choice.fold type, kind, ⟨s.id, a.number⟩⟩)
    (hQ : Q d (shop.putStore { s with devices := s.devices.insert i d })) :
    (installDevice action (some i) (some name) type (some k) (some n)).Succeeds shop Q := by
  subst hd
  unfold installDevice
  refine succeeds_bind_ofExcept hk (succeeds_bind_found action .store (some k) hs ?_)
  refine succeeds_bind_ofExcept ((Store.getAisle_eq_ok_iff _ _ _).2 ⟨n, rfl, ha⟩) ?_
  refine succeeds_bind_get (succeeds_unless_taken action hi ?_)
  refine succeeds_bind_ofExcept ((Store.addDevice_eq_ok_iff _ _ _).2 ⟨hsi, rfl⟩) ?_
  exact succeeds_bind_modify (succeeds_pure hQ)

end Provisioning

section Movement

variable {i k n : String} {c : Customer} {b b' : Basket} {s : Store} {a : Aisle}

theorem moveCustomer_succeeds {Q : Customer → Shop → Prop} (hc : shop.customers.get? i = some c)
    (hs : shop.stores.get? k = some s) (ha : s.aisles.get? n = some a)
    (hQ : Q (c.moveTo ⟨s.id, a.number⟩) (shop.afterMove c ⟨s.id, a.number⟩)) :
    (moveCustomer action (some i) (some k) (some n)).Succeeds shop Q := by
  unfold afterMove at hQ
  dsimp only at hQ
  unfold moveCustomer
  refine succeeds_bind_found action .customer (some i) hc ?_
  refine succeeds_bind_found action .store (some k) hs ?_
  refine succeeds_bind_ofExcept ((Store.getAisle_eq_ok_iff _ _ _).2 ⟨n, rfl, ha⟩) ?_
  refine succeeds_bind_modify (succeeds_bind_get ?_)
  dsimp only
  -- The customer has moved; what is left is the basket, if they hold one.
  split
  · rename_i held hheld
    rw [hheld] at hQ
    exact succeeds_bind_modify (succeeds_pure hQ)
  · rename_i hheld
    rw [hheld] at hQ
    exact succeeds_pure hQ

theorem assignBasket_succeeds {Q : Basket → Shop → Prop} (hc : shop.customers.get? i = some c)
    (hb : shop.baskets.get? k = some b) (hbc : ∀ owner, b.customer = some owner → owner = c.id)
    (hcb : ∀ held, c.basket = some held → held = b.id)
    (hb' : (shop.afterAssign c b).baskets.get? k = some b') (hQ : Q b' (shop.afterAssign c b)) :
    (assignBasket action (some i) (some k)).Succeeds shop Q := by
  unfold afterAssign at hb' hQ
  dsimp only at hb' hQ
  unfold assignBasket
  refine succeeds_bind_found action .customer (some i) hc ?_
  refine succeeds_bind_found action .basket (some k) hb ?_
  refine succeeds_unless_other action hbc (succeeds_unless_other action hcb ?_)
  refine succeeds_bind_modify ?_
  dsimp only
  -- Both records are written; a basket that is carried is looked up where it has gone.
  split
  · rename_i spot hspot
    rw [hspot] at hb' hQ
    exact succeeds_bind_modify (theBasket_succeeds action hb' hQ)
  · rename_i hspot
    rw [hspot] at hb' hQ
    exact theBasket_succeeds action hb' hQ

end Movement

/-- A step that is there is taken by its operation. -/
theorem Step.succeeds {op : Operation} {r : Reply} (h : Step shop op r shop')
    (hsound : shop.Sound) : (carryOut op).Succeeds shop fun r' next => r' = r ∧ next = shop' := by
  have hf := hsound.filed.floor
  cases h with
  | query hquery => exact ⟨r, shop, runIn_carryOut_of_query hquery, rfl, rfl⟩
  | openStore hk => exact succeeds_map (openStore_succeeds _ hk ⟨rfl, rfl⟩)
  | updateStore _ _ hs hs' =>
      subst hs'
      refine succeeds_map (succeeds_bind_found _ .store _ hs ?_)
      exact succeeds_bind_modify (succeeds_pure ⟨rfl, rfl⟩)
  | closeStore hs =>
      refine succeeds_map (succeeds_bind_found _ .store _ hs ?_)
      exact ⟨⟨⟩, _, rfl, rfl, rfl⟩
  | openAisle description location hs hn hp ha =>
      exact succeeds_map (openAisle_succeeds _ description location hs hn hp ha ⟨rfl, rfl⟩)
  | putUpShelf _ _ _ hs ha hi hh hw hb =>
      exact succeeds_map (putUpShelf_succeeds _ hs ha hi hh hw hb ⟨rfl, rfl⟩)
  | addProduct _ _ _ _ hi hx h0 hw hp =>
      exact succeeds_map (addProduct_succeeds _ hi hx h0 hw hp ⟨rfl, rfl⟩)
  | addInventory _ hs ha hb h0 hm hp ht hi hsi hj =>
      exact succeeds_map (addInventory_succeeds _ hs ha hb h0 hm hp ht hi hsi hj ⟨rfl, rfl⟩)
  | adjustInventory hi hlow hhigh hi' =>
      refine succeeds_map (succeeds_bind_found _ .inventory _ hi ?_)
      refine succeeds_bind_ofExcept ((Inventory.change_eq_ok_iff _ _ _ _).2 ⟨hlow, hhigh, hi'⟩) ?_
      exact succeeds_bind_modify (succeeds_pure ⟨rfl, rfl⟩)
  | addCustomer _ hi ht hc => exact succeeds_map (addCustomer_succeeds _ hi ht hc ⟨rfl, rfl⟩)
  | moveCustomer hc hs ha => exact succeeds_map (moveCustomer_succeeds _ hc hs ha ⟨rfl, rfl⟩)
  | addBasket hi hb => exact succeeds_map (addBasket_succeeds _ hi hb ⟨rfl, rfl⟩)
  | assignBasket hc hb hbc hcb hb' =>
      exact succeeds_map (assignBasket_succeeds _ hc hb hbc hcb hb' ⟨rfl, rfl⟩)
  | @takeIntoBasket _ p _ b _ q _ _ _ hb hq ho hspot hi hin hle hhigh hi' hb' =>
      -- Units change hands where the owner stands, which is what the trade asks for.
      subst hi' hb'
      have hhand := (handover_eq_ok_iff "Add Basket Product" b p _ _).2 ⟨_, _, ho, hspot, hi, hin⟩
      have htaken := (taking_eq_ok_iff _ b p q _ _).2 ⟨_, hq, hhand, hle, hhigh, rfl⟩
      refine succeeds_map ⟨b.plus p q, _, ?_, rfl, rfl⟩
      rw [Operation.action, runIn_takeIntoBasket _ hb, htaken]
      rfl
  | @putBackFromBasket _ p _ b _ q _ _ _ _ hb hheld hq hle ho hspot hi hin hlow hhigh hi' hb' =>
      have hminus := b.remove_eq_minus hheld hq hle
      rw [b.remove_eq_ok hheld hq hle, ← hb'] at hminus
      subst hi'
      have hhand := (handover_eq_ok_iff "Remove Basket Product" b p _ _).2
        ⟨_, _, ho, hspot, hi, hin⟩
      have hreturned := (returning_eq_ok_iff _ b p q _ _).2
        ⟨_, _, hheld, hq, hle, hhand, hlow, hhigh, rfl⟩
      refine succeeds_map ⟨b.minus p q, _, ?_, ?_, rfl⟩
      · rw [Operation.action, runIn_putBackFromBasket _ hb, hreturned, Except.ok.inj hminus]
        rfl
      · rw [Except.ok.inj hminus]
  | emptyBasket hb =>
      rcases emptyBasket_succeeds "Clear Basket" hf hsound.stocked hb with
        ⟨b', next, hrun, rfl, rfl⟩
      exact succeeds_map ⟨_, _, hrun, rfl, rfl⟩
  | installDevice hk hs ha hi hsi hd =>
      exact succeeds_map (installDevice_succeeds _ hk hs ha hi hsi hd ⟨rfl, rfl⟩)
  | raiseEvent _ hd he =>
      subst he
      refine succeeds_map (succeeds_bind_found _ .device _ hd ?_)
      exact succeeds_bind_modify (succeeds_pure ⟨rfl, rfl⟩)
  | issueCommand _ hd ht he =>
      subst he
      refine succeeds_map (succeeds_bind_found _ .device _ hd ?_)
      rw [ht]
      exact succeeds_bind_modify (succeeds_pure ⟨rfl, rfl⟩)

/-- An operation succeeds exactly if it was asked with a token, its step is there to be taken, and
    the line about it can be written; then it takes that step. -/
theorem run_eq_ok_iff (hsound : shop.Sound) {token : Option String} {op : Operation} {r : Reply} :
    run token op shop = (.ok r, shop') ↔
      isToken token = true ∧ Step shop op r shop' ∧ ∀ n ∈ op.logged r, Number.writable n = true := by
  rw [run_eq_ok_iff_attempt, ← and_assoc]
  refine and_congr_left fun _ => ⟨(attempt_meets hsound token op).ok r shop', ?_⟩
  rintro ⟨htoken, hstep⟩
  rcases hstep.succeeds hsound with ⟨r', next, hrun, rfl, rfl⟩
  rw [attempt_of_isToken htoken, hrun]

/-- The same where the line names no number. -/
theorem run_eq_ok_iff_step (hsound : shop.Sound) {token : Option String} {op : Operation}
    (hop : op.countsUnits = false) {r : Reply} :
    run token op shop = (.ok r, shop') ↔ isToken token = true ∧ Step shop op r shop' := by
  have hlogged := ((op.recorded_eq_ok_iff r r).1 (op.recorded_of_not_countsUnits hop r)).1
  rw [run_eq_ok_iff hsound]
  exact and_congr_right fun _ => and_iff_left hlogged

end Shop

end Shopfloor
