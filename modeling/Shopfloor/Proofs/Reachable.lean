import Shopfloor.Proofs.Act.Operation
import Shopfloor.Proofs.Invariant.Placed
import Shopfloor.Proofs.Number.Integer
/-!
# Runs of the Shop

What is true after any operations whatever, in any order, with any arguments
and any tokens, some of which failed.

A step keeps each of the invariants, and an operation takes a step or does
nothing, so every shop that a run leads to is sound. Two things follow at once.
What a customer's record says about where they are is what the lists of the
stores say, and the same of baskets. And an operation that is refused has done
nothing: the shop is the one it was asked in, down to the order in which
everything was registered. That is more than a rule each act keeps by itself,
because emptying a basket checks and writes line by line, and only a sound shop
makes sure that none of its checks fails after a write. The one way to fail after
a write is the line about what was done, if it has to name a number that cannot
be written.

Listing all stores is not among the operations. It takes no token, cannot
fail, and is the plain look at the values of `Shop.stores`.

## Main definitions

* `Shop.Reachable`: Operations lead to a shop from the empty one.
* `Shop.morning`, `Shop.bulkMorning`: Runs after which there is something to take.

## Theorems

* `Step.sound`: A step keeps a shop sound.
* `reachable_iff`: A shop that is reachable is at the end of a run.
* `Reachable.sound`: Every reachable shop is sound.
* `located_where_listed`: Records and lists agree on who is where.
* `error_leaves_shop`: What an operation that fails leaves behind.
-/

namespace Shopfloor

/-- How an operation ends can be compared, so runs can be evaluated. -/
instance decidableEqExcept {ε α : Type} [DecidableEq ε] [DecidableEq α] :
    DecidableEq (Except ε α)
  | .ok a, .ok b => decidable_of_iff (a = b) ⟨congrArg _, Except.ok.inj⟩
  | .error e, .error f => decidable_of_iff (e = f) ⟨congrArg _, Except.error.inj⟩
  | .ok _, .error _ => isFalse nofun
  | .error _, .ok _ => isFalse nofun

namespace Shop

/-- A shop to which operations lead from the empty one, whether they succeed or fail. -/
inductive Reachable : Shop → Prop
  | empty : Reachable .empty
  | call {shop : Shop} (token : Option String) (op : Operation) (h : Reachable shop) :
    Reachable (run token op shop).2

variable {shop shop' : Shop}

theorem Reachable.runAll (h : Reachable shop) (calls : List (Option String × Operation)) :
    Reachable (Shop.runAll shop calls) := by
  induction calls generalizing shop with
  | nil => exact h
  | cons call calls ih => exact ih (.call call.1 call.2 h)

/-- A shop is reachable exactly if a run from the empty shop ends in it. -/
theorem reachable_iff : Reachable shop ↔ ∃ calls, Shop.runAll .empty calls = shop := by
  constructor
  · intro h
    induction h with
    | empty => exact ⟨[], rfl⟩
    | call token op _ ih =>
        rcases ih with ⟨calls, rfl⟩
        -- The last call comes at the end of the run.
        refine ⟨calls ++ [(token, op)], ?_⟩
        unfold Shop.runAll
        rw [List.foldl_append]
        rfl
  · rintro ⟨calls, rfl⟩
    exact Reachable.empty.runAll calls

/-- A step keeps a shop sound. -/
theorem Step.sound {op : Operation} {r : Reply} (h : Step shop op r shop') (hsound : shop.Sound) :
    shop'.Sound :=
  ⟨h.filed hsound, h.stocked hsound, h.paired hsound, h.placed hsound⟩

/-- An operation keeps a shop sound, however it ends. -/
theorem Sound.run (hsound : shop.Sound) (token : Option String) (op : Operation) :
    (run token op shop).2.Sound := by
  rcases run_shop hsound token op with hsame | ⟨r, hstep⟩
  · rw [hsame]
    exact hsound
  · exact hstep.sound hsound

/-- Every reachable shop is sound. -/
theorem Reachable.sound (h : Reachable shop) : shop.Sound := by
  induction h with
  | empty => exact sound_empty
  | call token op _ ih => exact ih.run token op

/-- Records and lists agree on who is where. A customer is on the list of a store exactly if their
    record places them in it, and what it names is an aisle that is there; a basket is on the list
    of a store exactly if its record names it, which is the store its owner is in, if any. -/
theorem located_where_listed (h : Reachable shop) :
    (∀ k s, shop.stores.get? k = some s → ∀ c, s.customers.contains c = true ↔
      ∃ r spot, shop.customers.get? c = some r ∧ r.spot = some spot ∧ spot.store = s.id) ∧
    (∀ c r spot, shop.customers.get? c = some r → r.spot = some spot →
      ∃ s a, shop.stores.get? spot.store = some s ∧ s.aisles.get? spot.aisle = some a) ∧
    (∀ k s, shop.stores.get? k = some s → ∀ b, s.baskets.contains b = true ↔
      ∃ r, shop.baskets.get? b = some r ∧ r.store = some s.id) ∧
    (∀ b r, shop.baskets.get? b = some r →
      r.store = r.customer.bind fun c =>
        (shop.customers.get? c).bind fun owner => owner.spot.map AisleSpot.store) := by
  have hsound := h.sound
  refine ⟨fun k s hs c => ?_, fun c r spot hr hspot => ?_, fun k s hs b => ?_, fun b r hr => ?_⟩
  · rw [(hsound.placed.customers k s hs).contains_iff, storeOf_eq_some_iff,
      (hsound.store_self hs).1]
    constructor
    · rintro ⟨spot, hof, hstore⟩
      rcases Option.bind_eq_some_iff.1 hof with ⟨r, hr, hspot⟩
      exact ⟨r, spot, hr, hspot, hstore⟩
    · rintro ⟨r, spot, hr, hspot, hstore⟩
      exact ⟨spot, (spotOf_of_get? hr).trans hspot, hstore⟩
  · rcases hsound.placed.standing c spot ((spotOf_of_get? hr).trans hspot) with ⟨s, hs, a, ha⟩
    exact ⟨s, a, hs, ha⟩
  · rw [(hsound.placed.baskets k s hs).contains_iff, (hsound.store_self hs).1]
    exact Option.bind_eq_some_iff
  -- A basket is where its owner is; the readers are taken back to the records.
  · rw [← cartOf_of_get? hr, hsound.placed.together, ownerOf_of_get? hr]
    refine congrArg (Option.bind r.customer) (funext fun c => ?_)
    unfold storeOf spotOf
    rw [Option.map_bind]
    rfl

/-- A morning in which two stores open, a customer takes a basket and walks into one of them, and
    goods go from the shelf into the basket. -/
def morning : List (Option String × Operation) :=
  let ask op := (some "key", op)
  [ask (.provisionStore (some "north") (some "North Gate") (some "1 Gate Road")),
    ask (.provisionStore (some "south") (some "South Gate") (some "2 Gate Road")),
    ask (.provisionAisle (some "north") (some "1") (some "Bread") none none),
    ask (.provisionShelf (some "north") (some "1") (some "a") (some "Top") (some "high") none
      (some "ambient")),
    ask (.provisionProduct (some "rye") (some "Rye Bread") none none none
      (some (.finite false 5 (-1))) (some "ambient")),
    ask (.provisionInventory (some "i1") (some "north") (some "1") (some "a") (some 10) (some 8)
      (some "rye") none),
    ask (.provisionCustomer (some "ada") (some "Ada") (some "L") (some "guest") (some "a@b")
      (some "acc")),
    ask (.provisionBasket (some "b1")),
    ask (.assignCustomerBasket (some "ada") (some "b1")),
    ask (.updateCustomer (some "ada") (some "north") (some "1")),
    ask (.addBasketProduct (some "b1") (some "rye") (some 3))]

/-- The same morning with a shelf that has room for one unit more than can be written. -/
def bulkMorning (count : Int) : List (Option String × Operation) :=
  morning.take 5 ++
    (some "key", .provisionInventory (some "i1") (some "north") (some "1") (some "a")
      (some (Number.greatest + 1)) (some count) (some "rye") none) ::
    (morning.drop 6).take 4

/-- At the end of the morning the customer is listed where her record places her, and her basket
    is listed with her. -/
theorem listed_after_morning :
    ∃ s, (Shop.runAll .empty morning).stores.get? "north" = some s ∧
      s.customers.contains "ada" = true ∧ s.baskets.contains "b1" = true := by
  have h := located_where_listed (Reachable.empty.runAll morning)
  have hstore : ((Shop.runAll .empty morning).stores.get? "north").map Store.id = some "north" := by
    decide +kernel
  have hspot : ((Shop.runAll .empty morning).customers.get? "ada").map Customer.spot =
      some (some ⟨"north", "1"⟩) := by decide +kernel
  have hcart : ((Shop.runAll .empty morning).baskets.get? "b1").map Basket.store =
      some (some "north") := by decide +kernel
  rcases Option.map_eq_some_iff.1 hstore with ⟨s, hs, hid⟩
  rcases Option.map_eq_some_iff.1 hspot with ⟨c, hc, hcs⟩
  rcases Option.map_eq_some_iff.1 hcart with ⟨b, hb, hbs⟩
  exact ⟨s, hs, (h.1 "north" s hs "ada").2 ⟨c, _, hc, hcs, hid.symm⟩,
    (h.2.2.1 "north" s hs "b1").2 ⟨b, hb, hid.symm ▸ hbs⟩⟩

/-- An operation that fails changes nothing, whatever it was and whatever it was given: no record
    and no list, no order of arrival, no message in the log. This holds of every failure and of
    every record that is refused. What is left is a number that cannot be written, and there too
    nothing is changed, or the operation is done and only the line about it is missing. -/
theorem error_leaves_shop (h : Reachable shop) (token : Option String) (op : Operation) (e : Fault)
    (he : (Shop.run token op shop).1 = .error e) :
    (e ≠ .badValue .longNumber → (Shop.run token op shop).2 = shop) ∧
      ((Shop.run token op shop).2 = shop ∨ Unlogged shop op (Shop.run token op shop).2) := by
  rcases hrun : Shop.run token op shop with ⟨result, shop'⟩
  rw [hrun] at he
  dsimp only at he
  subst he
  rcases run_error h.sound hrun with hsame | ⟨hlong, hdone⟩
  · exact ⟨fun _ => hsame, .inl hsame⟩
  · exact ⟨fun hother => absurd hlong hother, .inr hdone⟩

/-- Goods cannot go back to a shelf that has filled up meanwhile, and the attempt leaves the basket
    and the shelf as they are. -/
theorem full_shelf_leaves_shop :
    let shop := Shop.runAll .empty (morning ++ [(some "key", .updateInventory (some "i1") 5)])
    let op := Operation.removeBasketProduct (some "b1") (some "rye") (some 2)
    (Shop.run (some "key") op shop).1 =
      .error (.failure op.action (.aboveCapacity "i1" 10 2 10)) ∧
    (Shop.run (some "key") op shop).2 = shop := by
  intro shop op
  have he : (Shop.run (some "key") op shop).1 =
      .error (.failure op.action (.aboveCapacity "i1" 10 2 10)) := by decide +kernel
  exact ⟨he, (error_leaves_shop (Reachable.empty.runAll _) (some "key") op _ he).1 nofun⟩

end Shop

end Shopfloor
