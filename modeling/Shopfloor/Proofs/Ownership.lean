import Shopfloor.Proofs.History
/-!
# Who Owns a Basket

A basket and its owner name each other, no third party comes in between, and
the bond is for good.

That the two sides agree is `Paired`, which every step keeps. What is added here
is time. Nothing takes a basket away from a customer: no operation writes the
field but the one in which a customer takes a basket, and that one is refused to
a customer who holds another. So a customer who holds a basket holds it after
any run, and by `Paired` the basket still names the customer.

A shop that closes, a basket that is emptied and a customer who walks off are
all covered by this, since they write other fields of the same records.

## Theorems

* `Step.basketOf_of_held`: A step takes no basket away from a customer.
* `Sound.basketOf_runAll`: Neither does a run.
* `basket_bond`: Owners and baskets are paired one to one, for good.
-/

namespace Shopfloor

namespace Shop

variable {shop shop' : Shop}

/-- A step takes no basket away from the customer who holds it. -/
theorem Step.basketOf_of_held {op : Operation} {r : Reply} (h : Step shop op r shop')
    (hsound : shop.Sound) {c b : String} (hheld : shop.basketOf c = some b) :
    shop'.basketOf c = some b := by
  have hids := hsound.filed.baskets
  cases h with
  | query _ => exact hheld
  | openStore _ => exact hheld
  | updateStore _ _ _ _ => exact hheld
  | @closeStore _ s _ => exact (basketOf_without s c).trans hheld
  | openAisle _ _ _ _ _ _ => exact hheld
  | putUpShelf _ _ _ _ _ _ _ _ _ => exact hheld
  | addProduct _ _ _ _ _ _ _ _ _ => exact hheld
  | addInventory _ _ _ _ _ _ _ _ _ _ _ => exact hheld
  | adjustInventory _ _ _ _ => exact hheld
  | addCustomer _ hi _ hr =>
      subst hr
      exact (Keyed.bind_insert _ _ _ _ c hi rfl).trans hheld
  | moveCustomer hr hs _ =>
      have hself := (hsound.customer_self hr).2
      have hstore := (hsound.store_self hs).2
      exact (basketOf_afterMove hself hids hstore c).trans hheld
  | addBasket _ _ => exact hheld
  | @assignBasket _ _ r q _ hr hq _ hother _ =>
      have hself := (hsound.customer_self hr).2
      rw [basketOf_afterAssign hself (hsound.basket_self hq).2 (hsound.placed.spot_store hr)]
      by_cases hc : c = r.id
      · -- Whoever holds a basket may take the same one again, and no other.
        rw [hc, basketOf_of_get? hself] at hheld
        rw [if_pos hc, hother b hheld]
      · rw [if_neg hc]
        exact hheld
  | takeIntoBasket _ _ _ _ _ _ _ _ _ _ => exact hheld
  | putBackFromBasket _ _ _ _ _ _ _ _ _ _ _ _ => exact hheld
  | emptyBasket _ => exact hheld
  | installDevice _ _ _ _ _ _ => exact hheld
  | raiseEvent _ _ _ => exact hheld
  | issueCommand _ _ _ _ => exact hheld

/-- A run takes no basket away from the customer who holds it, whether its operations succeed or
    fail. -/
theorem Sound.basketOf_runAll (hsound : shop.Sound) {c b : String}
    (hheld : shop.basketOf c = some b) (calls : List (Option String × Operation)) :
    (Shop.runAll shop calls).basketOf c = some b :=
  hsound.runAll_keeps (fun hstep hsound => hstep.basketOf_of_held hsound) calls hheld

theorem basketOf_eq_some_iff {c b : String} :
    shop.basketOf c = some b ↔ ∃ r, shop.customers.get? c = some r ∧ r.basket = some b :=
  Option.bind_eq_some_iff

theorem ownerOf_eq_some_iff {c b : String} :
    shop.ownerOf b = some c ↔ ∃ q, shop.baskets.get? b = some q ∧ q.customer = some c :=
  Option.bind_eq_some_iff

/-- A customer holds a basket exactly if the basket is registered and names the customer as its
    owner. So no basket is held by two customers and no customer owns two baskets, and whatever is
    done afterwards, the two still name each other. -/
theorem basket_bond (h : Reachable shop) :
    (∀ c b, (∃ r, shop.customers.get? c = some r ∧ r.basket = some b) ↔
      ∃ q, shop.baskets.get? b = some q ∧ q.customer = some c) ∧
    (∀ b c c' r r', shop.customers.get? c = some r → shop.customers.get? c' = some r' →
      r.basket = some b → r'.basket = some b → c = c') ∧
    (∀ c b b' q q', shop.baskets.get? b = some q → shop.baskets.get? b' = some q' →
      q.customer = some c → q'.customer = some c → b = b') ∧
    (∀ c b r, shop.customers.get? c = some r → r.basket = some b → ∀ calls,
      (∃ r', (Shop.runAll shop calls).customers.get? c = some r' ∧ r'.basket = some b) ∧
      ∃ q', (Shop.runAll shop calls).baskets.get? b = some q' ∧ q'.customer = some c) := by
  have hsound := h.sound
  refine ⟨fun c b => ?_, fun b c c' r r' hr hr' hb hb' => ?_, fun c b b' q q' hq hq' hc hc' => ?_,
    fun c b r hr hb calls => ?_⟩
  · rw [← basketOf_eq_some_iff, ← ownerOf_eq_some_iff]
    exact hsound.paired c b
  · -- Both are the one owner that the basket names.
    have ho := (hsound.paired c b).1 ((basketOf_of_get? hr).trans hb)
    have ho' := (hsound.paired c' b).1 ((basketOf_of_get? hr').trans hb')
    exact Option.some.inj (ho.symm.trans ho')
  · have hheld := (hsound.paired c b).2 ((ownerOf_of_get? hq).trans hc)
    have hheld' := (hsound.paired c b').2 ((ownerOf_of_get? hq').trans hc')
    exact Option.some.inj (hheld.symm.trans hheld')
  · have hheld := hsound.basketOf_runAll ((basketOf_of_get? hr).trans hb) calls
    have hpaired := (h.runAll calls).sound.paired
    exact ⟨basketOf_eq_some_iff.1 hheld, ownerOf_eq_some_iff.1 ((hpaired c b).1 hheld)⟩

/-- An evening after the morning: the basket is emptied, another customer asks for it in vain, and
    the store in which its owner stands closes. -/
def evening : List (Option String × Operation) :=
  let ask op := (some "key", op)
  [ask (.clearBasket (some "b1")),
    ask (.provisionCustomer (some "bob") (some "Bob") (some "M") (some "guest") (some "b@b")
      (some "acc")),
    ask (.assignCustomerBasket (some "bob") (some "b1")),
    ask (.deleteStore (some "north"))]

/-- After the evening the basket of the morning is still that of its owner. -/
theorem bond_after_evening :
    (∃ r, (Shop.runAll (Shop.runAll .empty morning) evening).customers.get? "ada" = some r ∧
      r.basket = some "b1") ∧
    ∃ q, (Shop.runAll (Shop.runAll .empty morning) evening).baskets.get? "b1" = some q ∧
      q.customer = some "ada" := by
  have hheld : ((Shop.runAll .empty morning).customers.get? "ada").map Customer.basket =
      some (some "b1") := by decide +kernel
  rcases Option.map_eq_some_iff.1 hheld with ⟨r, hr, hb⟩
  exact (basket_bond (Reachable.empty.runAll morning)).2.2.2 "ada" "b1" r hr hb evening

end Shop

end Shopfloor
