import Shopfloor.Proofs.Trade.Clearing
/-!
# Where Trade Takes Place

What the three trades of a basket ask of its owner, which is where they stand.

`TradesAt` says that taking, putting back and emptying come to what they come to
for an owner who stands at a given place: the place is handed to `Shop.taking`,
`Shop.returning` and `Shop.restocked`, and none of these looks at a customer. A
basket trades at one place then, and it is the place in the record of its owner,
with one exception. A basket whose owner has the empty id trades as if they stood
nowhere, although the record may say otherwise and although the basket counts as
assigned everywhere else.

## Main definitions

* `Shop.TradesAt`: The trades of a basket are those of an owner at a place.

## Theorems

* `exists_customer_of_owner`: The owner of a basket is registered.
* `standing_of_owner`: Where the trades take the owner to stand.
* `tradesAt_standing`: The trades of a basket take place there.
* `trades_where_owner_stands`: So they take place where the record says, unless the id is empty.
* `owner_without_name_stands_nowhere`: If it is, what is at hand cannot be taken.
-/

namespace Shopfloor

namespace Shop

/-- Taking, putting back and emptying come to what they come to for an owner who stands at a
    place. -/
structure TradesAt (shop : Shop) (k : String) (b : Basket) (place : Option AisleSpot) : Prop where
  taking : ∀ token, isToken token = true → ∀ p q,
    run token (.addBasketProduct (some k) (some p) (some q)) shop =
      match shop.taking "Add Basket Product" b p q place with
      | .ok i => ((b.plus p q).logged q, shop.traded i (b.plus p q))
      | .error e => (.error e, shop)
  returning : ∀ token, isToken token = true → ∀ p q,
    run token (.removeBasketProduct (some k) (some p) (some q)) shop =
      match shop.returning "Remove Basket Product" b p q place with
      | .ok i => ((b.minus p q).logged q, shop.traded i (b.minus p q))
      | .error e => (.error e, shop)
  emptying : ∀ token, isToken token = true →
    run token (.clearBasket (some k)) shop =
      (.ok (.basket { b with lines := .empty }),
        (shop.restocked place b.quantity).putBasket { b with lines := .empty })

variable {shop : Shop} {k p c : String} {q : Int} {b : Basket} {r : Customer} {spot : AisleSpot}
  {i : Inventory}

/-- The owner of a basket is registered. -/
theorem exists_customer_of_owner (hsound : shop.Sound) (hb : shop.baskets.get? k = some b)
    (hc : b.customer = some c) : ∃ r, shop.customers.get? c = some r := by
  have hholds : shop.basketOf c = some k :=
    (hsound.paired c k).2 ((ownerOf_of_get? hb).trans hc)
  rcases Option.bind_eq_some_iff.1 hholds with ⟨r, hr, -⟩
  exact ⟨r, hr⟩

/-- The owner of a basket is taken to stand where their record says, unless their id is empty. -/
theorem standing_of_owner (hc : b.customer = some c) (hr : shop.customers.get? c = some r) :
    shop.standing b = if c = "" then none else r.spot := by
  unfold standing
  rw [hc]
  by_cases hempty : c = ""
  · rw [if_pos hempty, hempty]
    rfl
  · rw [if_neg hempty]
    -- Of the three cases only the last is left for an owner with another id.
    split
    · rename_i hnone
      cases hnone
    · rename_i hsome
      exact absurd (Option.some.inj hsome) hempty
    · rename_i c' _ hsome
      rw [← Option.some.inj hsome, hr]
      rfl

/-- The trades of a basket take place where its owner is taken to stand. -/
theorem tradesAt_standing (hsound : shop.Sound) (hb : shop.baskets.get? k = some b) :
    shop.TradesAt k b (shop.standing b) where
  taking _ htoken p q := run_taking htoken hb p q
  returning _ htoken p q := run_returning htoken hb p q
  emptying _ htoken := run_clearing hsound htoken hb

/-- The trades of a basket that has an owner take place where the record of the owner says, unless
    their id is empty; then they take place nowhere. In particular an owner whose id is not empty can
    take what the first inventory of a product in their aisle has, in any quantity that can be
    written. -/
theorem trades_where_owner_stands (h : Reachable shop) (hb : shop.baskets.get? k = some b)
    (hc : b.customer = some c) :
    ∃ r, shop.customers.get? c = some r ∧
      shop.TradesAt k b (if c = "" then none else r.spot) ∧
      (c ≠ "" → ∀ token, isToken token = true → ∀ p q spot i, r.spot = some spot →
        shop.Serves p spot i → 1 ≤ q → q ≤ i.count → Number.writable q = true →
        ∃ reply, (run token (.addBasketProduct (some k) (some p) (some q)) shop).1 = .ok reply) := by
  have hsound := h.sound
  rcases exists_customer_of_owner hsound hb hc with ⟨r, hr⟩
  have hstanding := standing_of_owner hc hr
  refine ⟨r, hr, hstanding ▸ tradesAt_standing hsound hb, ?_⟩
  intro hname token htoken p q spot i hspot hserves hq hle hwritable
  rw [if_neg hname, hspot] at hstanding
  have hsource : shop.source? ⟨some k, some p, q⟩ = some i :=
    (source?_eq_some_iff _ i).2 ⟨k, b, p, spot, rfl, hb, rfl, hstanding,
      choose_of_serves hsound.filed.floor hserves, hserves.offers.here⟩
  have hpos : 0 < q := by omega
  rcases run_pick hsound htoken hsource hpos hle with ⟨b', -, hrun⟩
  rw [Basket.logged_of_writable _ hwritable] at hrun
  exact ⟨_, congrArg Prod.fst hrun⟩

/-- In the morning the owner of the basket can take all that is left where she stands. -/
theorem trades_in_the_morning :
    let shop := runAll .empty morning
    ∃ b r, shop.baskets.get? "b1" = some b ∧ shop.customers.get? "ada" = some r ∧
      shop.TradesAt "b1" b r.spot ∧
      ∃ reply, (run (some "key") (.addBasketProduct (some "b1") (some "rye") (some 5)) shop).1 =
        .ok reply := by
  intro shop
  have hreach : Reachable shop := Reachable.empty.runAll morning
  have htoken : isToken (some "key") = true := by decide +kernel
  have hbasket : (shop.baskets.get? "b1").map Basket.customer = some (some "ada") := by
    decide +kernel
  rcases Option.map_eq_some_iff.1 hbasket with ⟨b, hb, hc⟩
  have hcustomer : (shop.customers.get? "ada").map Customer.spot = some (some ⟨"north", "1"⟩) := by
    decide +kernel
  have hrye : ∃ i, shop.inventory? (some "i1") = some i ∧ shop.Serves "rye" ⟨"north", "1"⟩ i ∧
      i.count = 5 ∧ i.capacity = 10 :=
    exists_serves_of_alone hreach.sound.filed.floor (by decide +kernel) (by decide +kernel)
  rcases hrye with ⟨i, -, hserves, hcount, -⟩
  rcases trades_where_owner_stands hreach hb hc with ⟨r, hr, hplace, hpick⟩
  rw [hr, Option.map_some, Option.some.injEq] at hcustomer
  refine ⟨b, r, hb, hr, ?_, ?_⟩
  · rwa [if_neg (by decide)] at hplace
  · exact hpick (by decide) (some "key") htoken "rye" 5 _ i hcustomer hserves (by omega) (by omega)
      (by decide +kernel)

/-- A morning in which the customer has the empty id. -/
def namelessMorning : List (Option String × Operation) :=
  let ask op := (some "key", op)
  morning.take 6 ++
    [ask (.provisionCustomer (some "") (some "Ada") (some "L") (some "guest") (some "a@b")
        (some "acc")),
      ask (.provisionBasket (some "b1")), ask (.assignCustomerBasket (some "") (some "b1")),
      ask (.updateCustomer (some "") (some "north") (some "1"))]

/-- So a customer who stands beside the units may be refused them. -/
theorem owner_without_name_stands_nowhere :
    ¬ ∀ shop, Reachable shop → ∀ token, isToken token = true → ∀ k p c q b r spot i,
      shop.baskets.get? k = some b → b.customer = some c → shop.customers.get? c = some r →
      r.spot = some spot → shop.Serves p spot i → 1 ≤ q → q ≤ i.count →
      ∃ reply, (run token (.addBasketProduct (some k) (some p) (some q)) shop).1 = .ok reply := by
  intro hall
  have hreach : Reachable (runAll .empty namelessMorning) := Reachable.empty.runAll namelessMorning
  generalize hshop : runAll .empty namelessMorning = shop at hreach
  have hbasket : (shop.baskets.get? "b1").map Basket.customer = some (some "") := by
    rw [← hshop]
    decide +kernel
  rcases Option.map_eq_some_iff.1 hbasket with ⟨b, hb, hc⟩
  have hcustomer : (shop.customers.get? "").map Customer.spot = some (some ⟨"north", "1"⟩) := by
    rw [← hshop]
    decide +kernel
  rcases Option.map_eq_some_iff.1 hcustomer with ⟨r, hr, hspot⟩
  have hrye : ∃ i, shop.inventory? (some "i1") = some i ∧ shop.Serves "rye" ⟨"north", "1"⟩ i ∧
      i.count = 8 ∧ i.capacity = 10 := by
    have hf := hreach.sound.filed.floor
    rw [← hshop] at hf ⊢
    exact exists_serves_of_alone hf (by decide +kernel) (by decide +kernel)
  rcases hrye with ⟨i, -, hserves, hcount, -⟩
  rcases hall shop hreach (some "key") (by decide +kernel) "b1" "rye" "" 1 b r _ i hb hc hr hspot
    hserves (by omega) (by omega) with ⟨reply, hreply⟩
  -- The owner stands nowhere for the request, so it is refused.
  have hrefused : (run (some "key") (.addBasketProduct (some "b1") (some "rye") (some 1)) shop).1 =
      .error (.failure "Add Basket Product" (.notInStore "")) := by
    rw [← hshop]
    decide +kernel
  rw [hrefused] at hreply
  cases hreply

end Shop

end Shopfloor
