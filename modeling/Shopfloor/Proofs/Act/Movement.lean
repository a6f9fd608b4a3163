import Shopfloor.Proofs.Act.Provision
/-!
# What Movement Does

The acts that move customers and baskets, described by `Meets`.

A customer who walks and a customer who takes a basket change several records
one after the other. `afterMove` and `afterAssign` name the shop that comes out, and the
proofs here say that the acts get there: after the checks nothing is refused,
not even the last look at the basket, because a change in place keeps every key.

## Theorems

* `updateStore_meets`, `closeStore_meets`: Changing a store, and closing one.
* `moveCustomer_meets`: A customer walks.
* `carryBasket_contains`: Carrying a basket keeps every basket registered.
* `assignBasket_meets`: A customer takes a basket.
-/

namespace Shopfloor

namespace Shop

variable {shop : Shop} (action : String)

open Act

theorem updateStore_meets (id description address : Option String) :
    (updateStore action id description address).Meets shop fun s shop' =>
      Step shop (.updateStore id description address) (.store s) shop' := by
  unfold updateStore
  refine meets_bind_look (theStore_meets action id) fun s hs => ?_
  rcases hs with ⟨k, rfl, hs⟩
  exact meets_write (Step.updateStore description address hs rfl)

theorem closeStore_meets (id : Option String) :
    (closeStore action id).Meets shop fun _ shop' =>
      Step shop (.deleteStore id) .nothing shop' := by
  unfold closeStore
  refine meets_bind_look (theStore_meets action id) fun s hs => ?_
  rcases hs with ⟨k, rfl, hs⟩
  exact meets_write (Step.closeStore hs)

theorem moveCustomer_meets (id store number : Option String) :
    (moveCustomer action id store number).Meets shop fun c shop' =>
      Step shop (.updateCustomer id store number) (.customer c) shop' := by
  unfold moveCustomer
  refine meets_bind_look (theCustomer_meets action id) fun c hc => ?_
  rcases hc with ⟨i, rfl, hc⟩
  refine meets_bind_look (theStore_meets action store) fun s hs => ?_
  rcases hs with ⟨k, rfl, hs⟩
  refine meets_bind_ofExcept fun a ha => ?_
  rcases (Store.getAisle_eq_ok_iff _ _ _).1 ha with ⟨n, rfl, hn⟩
  have hstep := Step.moveCustomer hc hs hn
  unfold afterMove at hstep
  dsimp only at hstep
  -- From here on the customer moves, and then the basket if there is one.
  refine meets_of_succeeds (succeeds_bind_modify (succeeds_bind_get ?_))
  dsimp only
  split
  · rename_i b hb
    rw [hb] at hstep
    exact succeeds_bind_modify (succeeds_pure hstep)
  · rename_i hb
    rw [hb] at hstep
    exact succeeds_pure hstep

/-- The stores after a basket was taken off the list of the one it was in. -/
def unlisted (stores : Keyed Store) (b : Basket) : Keyed Store :=
  match b.store with
  | some previous => stores.adjust previous (·.dismissBasket b.id)
  | none => stores

theorem unlisted_contains (stores : Keyed Store) (b : Basket) (k : String) :
    (unlisted stores b).contains k = stores.contains k := by
  unfold unlisted
  cases b.store with
  | none => rfl
  | some previous => exact Keyed.contains_adjust _ _ _ _

theorem carryBasket_eq (b : Basket) (store : String) :
    shop.carryBasket b store =
      if b.store = some store then shop
      else if shop.stores.contains store then
        { shop with
          stores := (unlisted shop.stores b).adjust store (·.admitBasket b.id)
          baskets := shop.baskets.adjust b.id fun b => { b with store := some store } }
      else
        { shop with
          stores := unlisted shop.stores b
          baskets := shop.baskets.adjust b.id fun b => { b with store := none } } := by
  -- Whether the store is there does not depend on the list that the basket came off.
  rw [← unlisted_contains shop.stores b store]
  rfl

/-- Carrying a basket changes records in place, so every basket is still registered. -/
theorem carryBasket_contains (b : Basket) (store k : String) :
    (shop.carryBasket b store).baskets.contains k = shop.baskets.contains k := by
  rw [carryBasket_eq]
  by_cases hb : b.store = some store
  · rw [if_pos hb]
  · rw [if_neg hb]
    by_cases hs : shop.stores.contains store = true
    · rw [if_pos hs, Keyed.contains_adjust]
    · rw [if_neg hs, Keyed.contains_adjust]

theorem afterAssign_contains (c : Customer) (b : Basket) (k : String) :
    (shop.afterAssign c b).baskets.contains k = shop.baskets.contains k := by
  unfold afterAssign
  dsimp only
  split
  · rw [carryBasket_contains, Keyed.contains_adjust]
  · rw [Keyed.contains_adjust]

/-- A basket that is registered is found. -/
theorem theBasket_succeeds {k : String} {b : Basket} {Q : Basket → Shop → Prop}
    (hb : shop.baskets.get? k = some b) (hQ : Q b shop) :
    (theBasket action (some k)).Succeeds shop Q := by
  refine succeeds_bind_get ?_
  rw [Keyed.find?_some, hb]
  exact succeeds_pure hQ

/-- A refusal of what is bound to another; past it, it is bound to this one or to nobody. -/
theorem meets_unless_other {α : Type} {Q : α → Shop → Prop} {x : Option String} {own : String}
    {cause : String → Cause} {rest : Unit → Act α}
    (h : (∀ y, x = some y → y = own) → (rest ()).Meets shop Q) :
    (match x with
      | some y => if y ≠ own then fail action (cause y) >>= rest else rest ()
      | none => rest ()).Meets shop Q := by
  cases x with
  | none => exact h fun y hy => absurd hy (by simp only [reduceCtorEq, not_false_eq_true])
  | some y =>
      dsimp only
      by_cases hy : y = own
      · rw [if_neg (not_not.2 hy)]
        exact h fun z hz => (Option.some.inj hz).symm.trans hy
      · rw [if_pos hy]
        exact meets_bind_fail action (cause y) rest

theorem assignBasket_meets (customer basket : Option String) :
    (assignBasket action customer basket).Meets shop fun b shop' =>
      Step shop (.assignCustomerBasket customer basket) (.basket b) shop' := by
  unfold assignBasket
  refine meets_bind_look (theCustomer_meets action customer) fun c hc => ?_
  rcases hc with ⟨i, rfl, hc⟩
  refine meets_bind_look (theBasket_meets action basket) fun b hb => ?_
  rcases hb with ⟨k, rfl, hb⟩
  refine meets_unless_other action fun hbc => meets_unless_other action fun hcb => ?_
  -- Neither is bound to another, and the basket will still be there at the end.
  have hkept := @afterAssign_contains shop c b k
  rw [(Keyed.contains_iff _ _).2 ⟨b, hb⟩] at hkept
  rcases (Keyed.contains_iff _ _).1 hkept with ⟨b', hb'⟩
  have hstep := Step.assignBasket hc hb hbc hcb hb'
  unfold afterAssign at hstep hb'
  dsimp only at hstep hb'
  refine meets_of_succeeds (succeeds_bind_modify ?_)
  dsimp only
  split
  · rename_i spot hspot
    rw [hspot] at hstep hb'
    exact succeeds_bind_modify (theBasket_succeeds action hb' hstep)
  · rename_i hspot
    rw [hspot] at hstep hb'
    exact theBasket_succeeds action hb' hstep

end Shop

end Shopfloor
