import Shopfloor.Proofs.Act.Operation
/-!
# Handing Over

What it comes to when units are taken into a basket or put back, as a function
of the place at which the owner of the basket stands.

The acts look this place up once and use it twice, to settle on an inventory and
to ask whether the owner stands beside it. Here it is an argument. `handover` is
the inventory at which units change hands, or the reason why they do not;
`taking` and `returning` are that inventory as it is written back. None of them
looks at a customer, so there is nothing that an act could read of an owner but
where they stand.

Each act is one equation then. It says how the act ends in any shop whatever and
which two records it writes, and what is known of an act that succeeds, or of one
that fails, is read off a function without state.

## Main definitions

* `Basket.plus`, `Basket.minus`: A basket with more or fewer units of a product.
* `Shop.traded`: The shop after an inventory and a basket were written back.
* `Shop.handover`: Where units change hands, for an owner who stands at a place.
* `Shop.taking`, `Shop.returning`: What becomes of the inventory.
* `Basket.logged`: The answer, once the line about the quantity is written.

## Theorems

* `runIn_handover`: An inventory is settled on and stood beside.
* `runIn_taking`, `runIn_returning`: What is carried out.
* `run_taking`, `run_returning`: How it ends to take units and to put them back.
* `run_taking_of_handover`, `run_returning_of_handover`: The same where it ends well.
* `handover_eq_ok_iff`, `taking_eq_ok_iff`, `returning_eq_ok_iff`: When units change hands.
-/

namespace Shopfloor

/-- A basket with more units of a product. -/
def Basket.plus (b : Basket) (p : String) (q : Int) : Basket :=
  { b with lines := b.lines.insert p (b.quantity p + q) }

/-- A basket with fewer units of a product; a line that comes to zero is taken out. -/
def Basket.minus (b : Basket) (p : String) (q : Int) : Basket :=
  { b with
    lines := if b.quantity p = q then b.lines.erase p else b.lines.insert p (b.quantity p - q) }

/-- The answer to a trade that is done, once the line about its quantity is written. -/
def Basket.logged (b : Basket) (q : Int) : Except Fault Reply :=
  if Number.writable q then .ok (.basket b) else .error (.badValue .longNumber)

theorem Basket.logged_of_writable (b : Basket) {q : Int} (hq : Number.writable q = true) :
    b.logged q = .ok (.basket b) := if_pos hq

theorem Basket.writable_of_logged {b : Basket} {q : Int} {reply : Reply}
    (h : b.logged q = .ok reply) : Number.writable q = true := by
  by_cases hq : Number.writable q = true
  · exact hq
  · rw [logged, if_neg hq] at h
    cases h

theorem Basket.recorded_taking (b : Basket) (basket product : Option String) (q : Int) :
    (Operation.addBasketProduct basket product (some q)).recorded (.basket b) = b.logged q := by
  simp [Operation.recorded, Operation.logged, logged]

theorem Basket.recorded_returning (b : Basket) (basket product : Option String) (q : Int) :
    (Operation.removeBasketProduct basket product (some q)).recorded (.basket b) = b.logged q := by
  simp [Operation.recorded, Operation.logged, logged]

theorem Basket.quantity_of_get? {b : Basket} {p : String} {held : Int}
    (h : b.lines.get? p = some held) : b.quantity p = held := by
  unfold quantity
  rw [h, Option.getD_some]

theorem Basket.add_eq_plus (b : Basket) (p : String) {q : Int} (hq : 0 < q) :
    b.add p q = .ok (b.plus p q) := b.add_eq_ok p hq

theorem Basket.remove_eq_minus (b : Basket) {p : String} {q held : Int}
    (hheld : b.lines.get? p = some held) (hq : 0 < q) (hle : q ≤ held) :
    b.remove p q = .ok (b.minus p q) := by
  rw [b.remove_eq_ok hheld hq hle]
  unfold minus
  rw [quantity_of_get? hheld]

namespace Shop

/-- The shop after an inventory and a basket were written back. -/
def traded (shop : Shop) (i : Inventory) (b : Basket) : Shop := (shop.putInventory i).putBasket b

/-- The inventory at which units of a product change hands for a basket whose owner stands at a
    place, or why there is none. -/
def handover (shop : Shop) (action : String) (b : Basket) (p : String) (place : Option AisleSpot) :
    Except Fault Inventory :=
  match choose (shop.stockOf p) place, b.customer, place with
  | none, _, _ => .error (.failure action (.noStock (some p)))
  | some _, none, _ => .error (.failure action (.unassigned b.id))
  | some _, some c, none => .error (.failure action (.notInStore c))
  | some i, some _, some s =>
    if i.spot.inAisle = s then .ok i
    else .error (.failure action (.apart s.text i.id i.spot.inAisle.text))

/-- The inventory that units are taken from, without them, or why they are not taken. -/
def taking (shop : Shop) (action : String) (b : Basket) (p : String) (q : Int)
    (place : Option AisleSpot) : Except Fault Inventory :=
  if q ≤ 0 then .error (Cause.fault action (.quantityNotPositive (some q)))
  else
    match shop.handover action b p place with
    | .error e => .error e
    | .ok i =>
      if i.count < q then .error (Cause.fault action (.notEnough p q i.count))
      else i.change (-q) action

/-- The inventory that units are put back to, with them, or why they are not put back. -/
def returning (shop : Shop) (action : String) (b : Basket) (p : String) (q : Int)
    (place : Option AisleSpot) : Except Fault Inventory :=
  match b.lines.get? p with
  | none => .error (.failure action (.notInBasket (some p) b.id))
  | some held =>
    if q ≤ 0 ∨ held < q then .error (Cause.fault action (.invalidQuantity (some q) p held))
    else
      match shop.handover action b p place with
      | .error e => .error e
      | .ok i => i.change q action

variable {shop : Shop} (action : String)

/-! ## When units change hands -/

theorem handover_eq_ok_iff (b : Basket) (p : String) (place : Option AisleSpot) (i : Inventory) :
    shop.handover action b p place = .ok i ↔
      ∃ owner spot, b.customer = some owner ∧ place = some spot ∧
        choose (shop.stockOf p) (some spot) = some i ∧ i.spot.inAisle = spot := by
  unfold handover
  constructor
  · intro h
    split at h
    · cases h
    · cases h
    · cases h
    · rename_i j owner spot howner hj
      by_cases hin : j.spot.inAisle = spot
      · rw [if_pos hin, Except.ok.injEq] at h
        exact ⟨owner, spot, howner, rfl, h ▸ hj, h ▸ hin⟩
      · rw [if_neg hin] at h
        cases h
  · rintro ⟨owner, spot, howner, rfl, hi, hin⟩
    rw [hi, howner]
    exact if_pos hin

theorem taking_eq_ok_iff (b : Basket) (p : String) (q : Int) (place : Option AisleSpot)
    (i' : Inventory) :
    shop.taking action b p q place = .ok i' ↔
      ∃ i, 0 < q ∧ shop.handover action b p place = .ok i ∧ q ≤ i.count ∧
        i.count - q ≤ i.capacity ∧ i' = { i with count := i.count - q } := by
  unfold taking
  by_cases hq : q ≤ 0
  · rw [if_pos hq]
    constructor
    · intro h
      cases h
    · rintro ⟨i, hpos, -⟩
      omega
  rw [if_neg hq]
  cases hi : shop.handover action b p place with
  | error e =>
      constructor
      · intro h
        cases h
      · rintro ⟨i, -, hnone, -⟩
        cases hnone
  | ok i =>
      dsimp only
      by_cases hfew : i.count < q
      · rw [if_pos hfew]
        constructor
        · intro h
          cases h
        · rintro ⟨j, -, hj, hle, -⟩
          cases hj
          omega
      · rw [if_neg hfew, Inventory.change_eq_ok_iff]
        constructor
        · rintro ⟨-, hhigh, rfl⟩
          exact ⟨i, by omega, rfl, by omega, by omega, rfl⟩
        · rintro ⟨j, -, hj, hle, hhigh, rfl⟩
          cases hj
          exact ⟨by omega, by omega, rfl⟩

theorem returning_eq_ok_iff (b : Basket) (p : String) (q : Int) (place : Option AisleSpot)
    (i' : Inventory) :
    shop.returning action b p q place = .ok i' ↔
      ∃ i held, b.lines.get? p = some held ∧ 0 < q ∧ q ≤ held ∧
        shop.handover action b p place = .ok i ∧ 0 ≤ i.count + q ∧ i.count + q ≤ i.capacity ∧
        i' = { i with count := i.count + q } := by
  unfold returning
  cases hheld : b.lines.get? p with
  | none =>
      constructor
      · intro h
        cases h
      · rintro ⟨i, held, hnone, -⟩
        cases hnone
  | some held =>
      dsimp only
      by_cases hbad : q ≤ 0 ∨ held < q
      · rw [if_pos hbad]
        constructor
        · intro h
          cases h
        · rintro ⟨i, n, hn, hpos, hle, -⟩
          cases hn
          omega
      rw [if_neg hbad]
      cases hi : shop.handover action b p place with
      | error e =>
          constructor
          · intro h
            cases h
          · rintro ⟨i, n, -, -, -, hnone, -⟩
            cases hnone
      | ok i =>
          dsimp only
          rw [Inventory.change_eq_ok_iff]
          constructor
          · rintro ⟨hlow, hhigh, rfl⟩
            exact ⟨i, held, rfl, by omega, by omega, rfl, hlow, hhigh, rfl⟩
          · rintro ⟨j, n, -, -, -, hj, hlow, hhigh, rfl⟩
            cases hj
            exact ⟨hlow, hhigh, rfl⟩

/-! ## How the acts end -/

open Act

theorem runIn_resolve (p : String) (place : Option AisleSpot) :
    (resolve action p place).runIn shop =
      match choose (shop.stockOf p) place with
      | some i => (.ok i, shop)
      | none => (.error (.failure action (.noStock (some p))), shop) := by
  unfold resolve
  change (match choose (shop.stockOf p) place with
    | some i => pure i
    | none => Act.fail action (.noStock (some p)) : Act Inventory).runIn shop = _
  cases choose (shop.stockOf p) place with
  | none => rfl
  | some i => rfl

/-- Settling on an inventory and asking whether the owner stands beside it is the handover. -/
theorem runIn_handover {α : Type} (b : Basket) (p : String) (place : Option AisleSpot)
    (f : Inventory → Act α) :
    (resolve action p place >>= fun i => checkTogether action b i place >>= fun _ => f i).runIn
        shop =
      match shop.handover action b p place with
      | .ok i => (f i).runIn shop
      | .error e => (.error e, shop) := by
  rw [runIn_bind, runIn_resolve]
  -- The checks of the act are the cases of the function, in the same order.
  unfold handover
  cases choose (shop.stockOf p) place with
  | none => rfl
  | some i =>
      dsimp only
      unfold checkTogether
      cases b.customer with
      | none => rfl
      | some c =>
          cases place with
          | none => rfl
          | some s =>
              dsimp only
              by_cases hin : i.spot.inAisle = s
              · rw [if_pos hin, if_neg (not_not.2 hin)]
                rfl
              · rw [if_neg hin, if_pos hin]
                rfl

theorem runIn_takeIntoBasket {k p : String} {b : Basket} {q : Int}
    (hb : shop.baskets.get? k = some b) :
    (takeIntoBasket action (some k) (some p) (some q)).runIn shop =
      match shop.taking action b p q (shop.standing b) with
      | .ok i => (.ok (b.plus p q), shop.traded i (b.plus p q))
      | .error e => (.error e, shop) := by
  have hfind : shop.baskets.find? (some k) = some b := hb
  unfold takeIntoBasket taking
  rw [runIn_bind, runIn_theBasket action hfind]
  dsimp only
  by_cases hq : q ≤ 0
  · rw [if_pos hq, if_pos hq]
    rfl
  rw [if_neg hq, if_neg hq]
  refine (runIn_handover action b p (shop.standing b) _).trans ?_
  cases shop.handover action b p (shop.standing b) with
  | error e => rfl
  | ok i =>
      dsimp only
      by_cases hfew : i.count < q
      · rw [if_pos hfew, if_pos hfew]
        rfl
      rw [if_neg hfew, if_neg hfew, runIn_bind_ofExcept]
      cases i.change (-q) action with
      | error e => rfl
      | ok i' =>
          -- A basket takes any positive number.
          dsimp only
          rw [b.add_eq_plus p (by omega)]
          rfl

theorem runIn_putBackFromBasket {k p : String} {b : Basket} {q : Int}
    (hb : shop.baskets.get? k = some b) :
    (putBackFromBasket action (some k) (some p) (some q)).runIn shop =
      match shop.returning action b p q (shop.standing b) with
      | .ok i => (.ok (b.minus p q), shop.traded i (b.minus p q))
      | .error e => (.error e, shop) := by
  have hfind : shop.baskets.find? (some k) = some b := hb
  unfold putBackFromBasket returning
  rw [runIn_bind, runIn_theBasket action hfind]
  dsimp only
  rw [Keyed.find?_some]
  cases hheld : b.lines.get? p with
  | none => rfl
  | some held =>
      dsimp only
      rw [runIn_bind_pure]
      dsimp only
      by_cases hbad : q ≤ 0 ∨ held < q
      · rw [if_pos hbad, if_pos hbad]
        rfl
      rw [if_neg hbad, if_neg hbad]
      refine (runIn_handover action b p (shop.standing b) _).trans ?_
      cases shop.handover action b p (shop.standing b) with
      | error e => rfl
      | ok i =>
          dsimp only
          rw [runIn_bind_ofExcept]
          cases i.change q action with
          | error e => rfl
          | ok i' =>
              -- The basket holds what goes back, so it lets go of it.
              dsimp only
              rw [b.remove_eq_minus hheld (by omega) (by omega)]
              rfl

/-- What is carried out when units are taken into a basket. -/
theorem runIn_taking {k : String} {b : Basket} (hb : shop.baskets.get? k = some b) (p : String)
    (q : Int) :
    (carryOut (.addBasketProduct (some k) (some p) (some q))).runIn shop =
      match shop.taking "Add Basket Product" b p q (shop.standing b) with
      | .ok i => (.ok (.basket (b.plus p q)), shop.traded i (b.plus p q))
      | .error e => (.error e, shop) := by
  change (Reply.basket <$> takeIntoBasket "Add Basket Product" _ _ _).runIn shop = _
  rw [runIn_map, runIn_takeIntoBasket _ hb]
  cases shop.taking "Add Basket Product" b p q (shop.standing b) with
  | error e => rfl
  | ok i => rfl

/-- What is carried out when units of a basket are put back. -/
theorem runIn_returning {k : String} {b : Basket} (hb : shop.baskets.get? k = some b) (p : String)
    (q : Int) :
    (carryOut (.removeBasketProduct (some k) (some p) (some q))).runIn shop =
      match shop.returning "Remove Basket Product" b p q (shop.standing b) with
      | .ok i => (.ok (.basket (b.minus p q)), shop.traded i (b.minus p q))
      | .error e => (.error e, shop) := by
  change (Reply.basket <$> putBackFromBasket "Remove Basket Product" _ _ _).runIn shop = _
  rw [runIn_map, runIn_putBackFromBasket _ hb]
  cases shop.returning "Remove Basket Product" b p q (shop.standing b) with
  | error e => rfl
  | ok i => rfl

/-- How it ends to take units into a basket. -/
theorem run_taking {token : Option String} (htoken : isToken token = true) {k : String}
    {b : Basket} (hb : shop.baskets.get? k = some b) (p : String) (q : Int) :
    run token (.addBasketProduct (some k) (some p) (some q)) shop =
      match shop.taking "Add Basket Product" b p q (shop.standing b) with
      | .ok i => ((b.plus p q).logged q, shop.traded i (b.plus p q))
      | .error e => (.error e, shop) := by
  rw [run_of_isToken htoken, runIn_taking hb]
  cases shop.taking "Add Basket Product" b p q (shop.standing b) with
  | error e => rfl
  | ok i =>
      dsimp only [Except.bind]
      rw [Basket.recorded_taking]

/-- How it ends to put units of a basket back. -/
theorem run_returning {token : Option String} (htoken : isToken token = true) {k : String}
    {b : Basket} (hb : shop.baskets.get? k = some b) (p : String) (q : Int) :
    run token (.removeBasketProduct (some k) (some p) (some q)) shop =
      match shop.returning "Remove Basket Product" b p q (shop.standing b) with
      | .ok i => ((b.minus p q).logged q, shop.traded i (b.minus p q))
      | .error e => (.error e, shop) := by
  rw [run_of_isToken htoken, runIn_returning hb]
  cases shop.returning "Remove Basket Product" b p q (shop.standing b) with
  | error e => rfl
  | ok i =>
      dsimp only [Except.bind]
      rw [Basket.recorded_returning]

/-- What was answered to a request for units could be written. -/
theorem writable_of_run_taking {token basket product : Option String} {q : Int} {reply : Reply}
    {shop' : Shop}
    (h : run token (.addBasketProduct basket product (some q)) shop = (.ok reply, shop')) :
    Number.writable q = true := (run_eq_ok_iff_attempt.1 h).2 q List.mem_cons_self

theorem writable_of_run_returning {token basket product : Option String} {q : Int} {reply : Reply}
    {shop' : Shop}
    (h : run token (.removeBasketProduct basket product (some q)) shop = (.ok reply, shop')) :
    Number.writable q = true := (run_eq_ok_iff_attempt.1 h).2 q List.mem_cons_self

/-- Units are taken that are there. -/
theorem run_taking_of_handover {token : Option String} (htoken : isToken token = true)
    {k p : String} {b : Basket} {i : Inventory} {q : Int} (hb : shop.baskets.get? k = some b)
    (hi : shop.handover "Add Basket Product" b p (shop.standing b) = .ok i) (hq : 0 < q)
    (hle : q ≤ i.count) (hcapacity : i.count - q ≤ i.capacity) :
    run token (.addBasketProduct (some k) (some p) (some q)) shop =
      ((b.plus p q).logged q,
        shop.traded { i with count := i.count - q } (b.plus p q)) := by
  rw [run_taking htoken hb, (taking_eq_ok_iff _ _ _ _ _ _).2 ⟨i, hq, hi, hle, hcapacity, rfl⟩]

/-- Units are put back that the basket holds and for which there is room. -/
theorem run_returning_of_handover {token : Option String} (htoken : isToken token = true)
    {k p : String} {b : Basket} {i : Inventory} {q held : Int}
    (hb : shop.baskets.get? k = some b) (hheld : b.lines.get? p = some held)
    (hi : shop.handover "Remove Basket Product" b p (shop.standing b) = .ok i) (hq : 0 < q)
    (hle : q ≤ held) (hlow : 0 ≤ i.count + q) (hroom : i.count + q ≤ i.capacity) :
    run token (.removeBasketProduct (some k) (some p) (some q)) shop =
      ((b.minus p q).logged q,
        shop.traded { i with count := i.count + q } (b.minus p q)) := by
  rw [run_returning htoken hb,
    (returning_eq_ok_iff _ _ _ _ _ _).2 ⟨i, held, hheld, hq, hle, hi, hlow, hroom, rfl⟩]

end Shop

end Shopfloor
