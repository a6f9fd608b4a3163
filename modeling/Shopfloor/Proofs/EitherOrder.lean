import Shopfloor.Proofs.Act.Completion
import Shopfloor.Proofs.Keyed.Undo
import Shopfloor.Proofs.Reachable
/-!
# Taking a Basket and Walking

A customer may take a basket and then walk, or walk and then take it.

The two orders go different ways. A basket that is taken first is brought to where
the customer stands and is carried on from there, from list to list; one that is
taken last is brought to the end of the walk at once. What they have in common is
where they end, `Shop.accompanied`, which is one change of the shop as it was
before both. Each order is shown to come to it under the same conditions, so
neither is ever compared with the other.

That the way round leaves no trace is `Keyed.passed_passed`: whoever comes onto a
list and goes off it again has not changed it, not even its order, because a new
entry goes last. A basket that nobody has is on no list, and one that the customer
has is where they are, so the way round is never longer than that.

## Main definitions

* `Basket.along`: A basket after a walk of a customer who may have had it.
* `Shop.accompanied`: A customer is in an aisle with a basket.
* `Shop.Accompanies`: The customer and the basket can be brought there.
* `Shop.BothLead`: Two operations succeed one after the other.

## Theorems

* `Keyed.passed_passed`: A stop on the way leaves no trace on a list.
* `with_owner_or_unlisted`: A basket that may be taken is with the customer or on no list.
* `afterMove_afterAssign_eq`, `afterAssign_afterMove_eq`: Where either order ends.
* `taken_then_afterMove_iff`, `afterMove_then_taken_iff`: When either order succeeds.
* `taking_walking_commute`: The order does not matter.
-/

namespace Shopfloor

namespace Keyed

/-- Whoever is not on a list comes onto it and goes off it again, and the list is as it was. -/
theorem strike_enroll {m : Keyed Listing} {id : String} (h : m.get? id = none) :
    (m.enroll id).strike id = m := by
  have hout : ¬ m.contains id = true := by
    rw [(contains_eq_false_iff m id).2 h]
    exact Bool.false_ne_true
  unfold enroll strike
  rw [if_neg hout, if_pos (get?_insert_self m id .current)]
  exact erase_insert m h .current

/-- A stop on the way from nowhere to a store leaves no trace on any list. -/
theorem passed_passed {m : Keyed Listing} {id : String} (h : m.get? id = none)
    {stop store : String} (hne : stop ≠ store) (here : String) :
    (m.passed id here none stop).passed id here (some stop) store =
      m.passed id here none store := by
  have hnone : ¬ none = some here := nofun
  unfold passed
  simp only [if_neg hnone, Option.some.injEq]
  -- The list of the store where the way ends, that of the stop, and all other lists.
  by_cases hstore : here = store
  · rw [if_pos hstore, if_pos hstore, if_neg fun hstop => hne (hstop.symm.trans hstore)]
  · rw [if_neg hstore, if_neg hstore]
    by_cases hstop : here = stop
    · rw [if_pos hstop, if_pos hstop.symm, strike_enroll h]
    · rw [if_neg hstop, if_neg fun he => hstop he.symm]

end Keyed

/-- A basket after a customer has walked to a store, who may have had it with them. -/
def Basket.along (b : Basket) (c : Customer) (store : String) : Basket :=
  if c.basket = some b.id then { b with store := some store } else b

@[simp]
theorem Basket.along_id (b : Basket) (c : Customer) (store : String) :
    (b.along c store).id = b.id := by
  unfold along
  split <;> rfl

@[simp]
theorem Basket.along_customer (b : Basket) (c : Customer) (store : String) :
    (b.along c store).customer = b.customer := by
  unfold along
  split <;> rfl

namespace Shop

/-- A customer is in an aisle with a basket: the shop after they have come there from where they
    were. -/
def accompanied (shop : Shop) (c : Customer) (b : Basket) (spot : AisleSpot) : Shop :=
  { shop with
    stores := shop.stores.mapValues fun x s =>
      { s with
        customers := s.customers.passed c.id x (c.spot.map AisleSpot.store) spot.store
        baskets := listsAfter s x b spot.store }
    customers := shop.customers.adjust c.id fun _ => { c.moveTo spot with basket := some b.id }
    baskets := shop.baskets.adjust b.id fun b =>
      { b with customer := some c.id, store := some spot.store } }

/-- A customer can be brought to an aisle with a basket: all of them are there, and neither the
    customer nor the basket is bound to another. -/
inductive Accompanies (shop : Shop) :
    Option String → Option String → Option String → Option String → Shop → Prop
  | intro {i k x n : String} {c : Customer} {b : Basket} {s : Store} {a : Aisle}
    (hc : shop.customers.get? i = some c) (hb : shop.baskets.get? k = some b)
    (hbc : ∀ owner, b.customer = some owner → owner = c.id)
    (hcb : ∀ held, c.basket = some held → held = b.id)
    (hs : shop.stores.get? x = some s) (ha : s.aisles.get? n = some a) :
    Accompanies shop (some i) (some k) (some x) (some n) (shop.accompanied c b ⟨s.id, a.number⟩)

/-- Two operations succeed, one after the other, and lead to a shop. -/
def BothLead (shop : Shop) (first second : Option String × Operation) (final : Shop) : Prop :=
  ∃ r next r', run first.1 first.2 shop = (.ok r, next) ∧
    run second.1 second.2 next = (.ok r', final)

variable {shop : Shop} {c : Customer} {b : Basket} {s : Store} {spot : AisleSpot}

section Taken

variable (hsound : shop.Sound) (hc : shop.customers.get? c.id = some c)
  (hb : shop.baskets.get? b.id = some b)
  (hbc : ∀ owner, b.customer = some owner → owner = c.id)
include hsound hc hb hbc

/-- A basket that a customer may take is where they are, or is on no list of any store. -/
theorem with_owner_or_unlisted : b.store = c.spot.map AisleSpot.store ∨
    b.store = none ∧ ∀ x s, shop.stores.get? x = some s → s.baskets.get? b.id = none := by
  have htogether := hsound.placed.together b.id
  rw [cartOf_of_get? hb, ownerOf_of_get? hb] at htogether
  cases howner : b.customer with
  | some owner =>
      rw [howner, hbc owner howner, Option.bind_some, storeOf_of_get? hc] at htogether
      exact Or.inl htogether
  | none =>
      rw [howner, Option.bind_none] at htogether
      refine Or.inr ⟨htogether, fun x s hs => ?_⟩
      refine (Keyed.contains_eq_false_iff _ _).1 (Bool.eq_false_iff.2 fun hin => ?_)
      have hcart := ((hsound.placed.baskets x s hs).contains_iff b.id).1 hin
      rw [cartOf_of_get? hb, htogether] at hcart
      cases hcart

/-- A list of baskets after one was brought to its new owner and carried on from there. -/
theorem listsAfter_listsAfter {x : String} (hs : shop.stores.get? x = some s) (store : String)
    {b₁ : Basket} {s₁ : Store} (hid : b₁.id = b.id)
    (hstore : b₁.store = c.spot.map AisleSpot.store)
    (hlist : s₁.baskets = c.spot.elim s.baskets fun spot => listsAfter s x b spot.store) :
    listsAfter s₁ x b₁ store = listsAfter s x b store := by
  unfold listsAfter at hlist ⊢
  rw [hid, hstore, hlist]
  cases hspot : c.spot with
  | none =>
      -- The customer stands nowhere, and so the basket is nowhere too.
      rcases with_owner_or_unlisted hsound hc hb hbc with hwith | ⟨hnowhere, -⟩
      · rw [hwith, hspot]
        rfl
      · rw [hnowhere]
        rfl
  | some stop =>
      rw [Option.elim_some, Option.map_some]
      rcases with_owner_or_unlisted hsound hc hb hbc with hwith | ⟨hnowhere, hout⟩
      · rw [hspot, Option.map_some] at hwith
        rw [hwith, if_pos rfl]
      · -- The basket came onto the list where the customer stands, and goes off it if they leave.
        rw [hnowhere]
        simp only [reduceCtorEq, if_false, Option.some.injEq]
        by_cases hthere : stop.store = store
        · rw [if_pos hthere, hthere]
        · rw [if_neg hthere]
          exact Keyed.passed_passed (hout x s hs) hthere x

/-- Where a customer and a basket are after the basket was taken and the customer has walked. -/
theorem afterMove_afterAssign_eq (hs : shop.stores.get? spot.store = some s) :
    (shop.afterAssign c b).afterMove { c with basket := some b.id } spot =
      shop.accompanied c b spot := by
  have hbound := afterAssign_eq hb (hsound.placed.spot_store hc)
  have hids : (shop.afterAssign c b).baskets.All fun k b => b.id = k := by
    rw [hbound]
    exact hsound.filed.baskets.adjust fun _ hid => hid
  have hheld : (shop.afterAssign c b).baskets.get? b.id =
      some { b with customer := some c.id, store := c.spot.map AisleSpot.store } := by
    rw [hbound, Keyed.get?_adjust, if_pos rfl, hb, Option.map_some,
      spot_or_store hsound.placed hc hb hbc]
  have hstore : ∃ t, (shop.afterAssign c b).stores.get? spot.store = some t := by
    rw [hbound, Keyed.get?_mapValues, hs]
    exact ⟨_, rfl⟩
  rcases hstore with ⟨t, ht⟩
  rw [afterMove_eq hids ht]
  dsimp only
  rw [Keyed.find?_some, hheld, hbound]
  dsimp only
  rw [Keyed.mapValues_mapValues, Keyed.adjust_adjust]
  unfold accompanied
  -- The record of the customer is the same already; lists and baskets were written twice.
  congr 1
  · refine Keyed.mapValues_congr _ fun x t ht => ?_
    rw [Option.elim_some]
    refine congrArg (fun l => { t with
      customers := t.customers.passed c.id x (c.spot.map AisleSpot.store) spot.store
      baskets := l }) ?_
    exact listsAfter_listsAfter hsound hc hb hbc ht spot.store rfl rfl rfl
  · unfold Keyed.adjust
    rw [Keyed.mapValues_mapValues]
    refine Keyed.mapValues_congr _ fun x b' _ => ?_
    by_cases hx : x = b.id
    · rw [if_pos (congrArg some hx.symm), if_pos hx, if_pos hx]
    · rw [if_neg fun he => hx (Option.some.inj he).symm, if_neg hx, if_neg hx]

end Taken

section AfterMove

variable (hsound : shop.Sound) (hs : shop.stores.get? spot.store = some s)
include hsound hs

theorem baskets_get?_afterMove (x : String) : (shop.afterMove c spot).baskets.get? x =
    (shop.baskets.get? x).map fun b => b.along c spot.store := by
  rw [afterMove_eq hsound.filed.baskets hs, Keyed.get?_mapValues]
  cases hb : shop.baskets.get? x with
  | none => rfl
  | some b =>
      rw [Option.map_some, Option.map_some, ← (hsound.basket_self hb).1]
      rfl

/-- A customer who has walked takes a basket at the end of the walk. -/
theorem afterAssign_moveTo (hb : shop.baskets.get? b.id = some b) :
    (shop.afterMove c spot).afterAssign (c.moveTo spot) (b.along c spot.store) =
      { shop.afterMove c spot with
        stores := (shop.afterMove c spot).stores.mapValues fun x s =>
          { s with baskets := listsAfter s x (b.along c spot.store) spot.store }
        customers := (shop.afterMove c spot).customers.adjust c.id fun c =>
          { c with basket := some b.id }
        baskets := (shop.afterMove c spot).baskets.adjust b.id fun b =>
          { b with customer := some c.id, store := some spot.store } } := by
  have hthere := baskets_get?_afterMove hsound hs (c := c) b.id
  rw [hb, Option.map_some] at hthere
  rw [← b.along_id c spot.store] at hthere ⊢
  -- The customer now stands in the store to which they walked.
  refine afterAssign_eq hthere fun at₀ hat => ?_
  cases hat
  rw [stores_afterMove hsound.filed.baskets hs, Keyed.get?_mapValues, hs]
  exact ⟨_, rfl⟩

/-- Where a customer and a basket are after the customer has walked and has taken the basket. The
    basket went along, if it was theirs already. -/
theorem afterAssign_afterMove_eq (hb : shop.baskets.get? b.id = some b)
    (hcb : ∀ held, c.basket = some held → held = b.id) :
    (shop.afterMove c spot).afterAssign (c.moveTo spot) (b.along c spot.store) =
      shop.accompanied c b spot := by
  rw [afterAssign_moveTo hsound hs hb, afterMove_eq hsound.filed.baskets hs]
  dsimp only
  rw [Keyed.mapValues_mapValues, Keyed.adjust_adjust]
  unfold accompanied
  congr 1
  · refine Keyed.mapValues_congr _ fun x t _ => ?_
    refine congrArg (fun l => { t with
      customers := t.customers.passed c.id x (c.spot.map AisleSpot.store) spot.store
      baskets := l }) ?_
    unfold Basket.along
    by_cases hheld : c.basket = some b.id
    · -- The basket went along and is on the list already.
      rw [if_pos hheld, hheld, Keyed.find?_some, hb, Option.elim_some]
      exact if_pos rfl
    · -- The customer held nothing, so no list of baskets has changed on the way.
      have hnone : c.basket = none :=
        Option.eq_none_iff_forall_ne_some.2 fun held he => hheld (hcb held he ▸ he)
      rw [if_neg hheld, hnone]
      rfl
  · unfold Keyed.adjust
    rw [Keyed.mapValues_mapValues]
    refine Keyed.mapValues_congr _ fun x b' _ => ?_
    by_cases hx : x = b.id
    · rw [if_pos hx, if_pos hx]
      split <;> rfl
    · rw [if_neg hx, if_neg hx, if_neg fun he => hx (hcb x he)]

end AfterMove

section Orders

variable (hsound : shop.Sound)
include hsound

theorem customer_afterAssign (hc : shop.customers.get? c.id = some c)
    (hb : shop.baskets.get? b.id = some b) :
    (shop.afterAssign c b).customers.get? c.id = some { c with basket := some b.id } := by
  rw [afterAssign_eq hb (hsound.placed.spot_store hc), Keyed.get?_adjust, if_pos rfl, hc,
    Option.map_some]

theorem customer_afterMove (hc : shop.customers.get? c.id = some c)
    (hs : shop.stores.get? spot.store = some s) :
    (shop.afterMove c spot).customers.get? c.id = some (c.moveTo spot) := by
  rw [afterMove_eq hsound.filed.baskets hs, Keyed.get?_adjust, if_pos rfl, hc, Option.map_some]

/-- A customer takes a basket that nobody else has. -/
theorem step_assignBasket (hc : shop.customers.get? c.id = some c)
    (hb : shop.baskets.get? b.id = some b)
    (hbc : ∀ owner, b.customer = some owner → owner = c.id)
    (hcb : ∀ held, c.basket = some held → held = b.id) :
    ∃ b', Step shop (.assignCustomerBasket (some c.id) (some b.id)) (.basket b')
      (shop.afterAssign c b) := by
  have hthere : ∃ b', (shop.afterAssign c b).baskets.get? b.id = some b' := by
    rw [afterAssign_eq hb (hsound.placed.spot_store hc), Keyed.get?_adjust, if_pos rfl, hb]
    exact ⟨_, rfl⟩
  exact hthere.imp fun _ hb' => .assignBasket hc hb hbc hcb hb'

variable {token token' customer basket store number : Option String} {final : Shop}

/-- A customer can take a basket and then walk exactly if both can be brought there. -/
theorem taken_then_afterMove_iff :
    shop.BothLead (token, .assignCustomerBasket customer basket)
        (token', .updateCustomer customer store number) final ↔
      isToken token = true ∧ isToken token' = true ∧
        shop.Accompanies customer basket store number final := by
  constructor
  · rintro ⟨r, next, r', hfirst, hsecond⟩
    rcases (run_eq_ok_iff_step hsound rfl).1 hfirst with ⟨htoken, htake⟩
    rcases (run_eq_ok_iff_step (htake.sound hsound) rfl).1 hsecond with ⟨htoken', hwalk⟩
    refine ⟨htoken, htoken', ?_⟩
    cases htake with
    | query hquery => cases hquery
    | @assignBasket _ _ c b _ hc hb hbc hcb _ =>
        rcases hsound.customer_self hc with ⟨rfl, -⟩
        rcases hsound.basket_self hb with ⟨rfl, -⟩
        cases hwalk with
        | query hquery => cases hquery
        | @moveCustomer _ x n c₁ s₁ a hc₁ hs₁ ha =>
            rw [customer_afterAssign hsound hc hb, Option.some.injEq] at hc₁
            rw [stores_afterAssign hsound.placed hc hb, Keyed.get?_mapValues,
              Option.map_eq_some_iff] at hs₁
            rcases hs₁ with ⟨s, hs, rfl⟩
            subst hc₁
            rw [afterMove_afterAssign_eq hsound hc hb hbc (hsound.store_self hs).2]
            exact Accompanies.intro (s := s) hc hb hbc hcb hs ha
  · rintro ⟨htoken, htoken', haccompanies⟩
    cases haccompanies with
    | @intro _ _ x n c b s a hc hb hbc hcb hs ha =>
        rcases hsound.customer_self hc with ⟨rfl, -⟩
        rcases hsound.basket_self hb with ⟨rfl, -⟩
        rcases step_assignBasket hsound hc hb hbc hcb with ⟨b', htake⟩
        have hs₁ : (shop.afterAssign c b).stores.get? x = some { s with
            baskets := c.spot.elim s.baskets fun spot => listsAfter s x b spot.store } := by
          rw [stores_afterAssign hsound.placed hc hb, Keyed.get?_mapValues, hs, Option.map_some]
        have hwalk := Step.moveCustomer (customer_afterAssign hsound hc hb) hs₁ ha
        rw [afterMove_afterAssign_eq hsound hc hb hbc (hsound.store_self hs).2] at hwalk
        exact ⟨_, _, _, (run_eq_ok_iff_step hsound rfl).2 ⟨htoken, htake⟩,
          (run_eq_ok_iff_step (htake.sound hsound) rfl).2 ⟨htoken', hwalk⟩⟩

/-- A customer can walk and then take a basket exactly if both can be brought there. -/
theorem afterMove_then_taken_iff :
    shop.BothLead (token', .updateCustomer customer store number)
        (token, .assignCustomerBasket customer basket) final ↔
      isToken token = true ∧ isToken token' = true ∧
        shop.Accompanies customer basket store number final := by
  constructor
  · rintro ⟨r, next, r', hfirst, hsecond⟩
    rcases (run_eq_ok_iff_step hsound rfl).1 hfirst with ⟨htoken', hwalk⟩
    rcases (run_eq_ok_iff_step (hwalk.sound hsound) rfl).1 hsecond with ⟨htoken, htake⟩
    refine ⟨htoken, htoken', ?_⟩
    cases hwalk with
    | query hquery => cases hquery
    | @moveCustomer i x n c s a hc hs ha =>
        rcases hsound.customer_self hc with ⟨rfl, -⟩
        have hself : shop.stores.get? (AisleSpot.mk s.id a.number).store = some s :=
          (hsound.store_self hs).2
        cases htake with
        | query hquery => cases hquery
        | @assignBasket _ k c₂ b₂ _ hc₂ hb₂ hbc hcb _ =>
            rw [customer_afterMove hsound hc hself, Option.some.injEq] at hc₂
            rw [baskets_get?_afterMove hsound hself, Option.map_eq_some_iff] at hb₂
            rcases hb₂ with ⟨b, hb, rfl⟩
            rcases hsound.basket_self hb with ⟨rfl, -⟩
            subst hc₂
            -- What is checked after the walk is what could be checked before it.
            have hheld : ∀ held, c.basket = some held → held = b.id := fun held he => by
              rw [hcb held he, b.along_id]
            rw [b.along_customer] at hbc
            rw [afterAssign_afterMove_eq hsound hself hb hheld]
            exact .intro hc hb hbc hheld hs ha
  · rintro ⟨htoken, htoken', haccompanies⟩
    cases haccompanies with
    | @intro _ _ x n c b s a hc hb hbc hcb hs ha =>
        rcases hsound.customer_self hc with ⟨rfl, -⟩
        rcases hsound.basket_self hb with ⟨rfl, -⟩
        have hself : shop.stores.get? (AisleSpot.mk s.id a.number).store = some s :=
          (hsound.store_self hs).2
        have hwalk := Step.moveCustomer hc hs ha
        have hsound' := hwalk.sound hsound
        have hb₂ : (shop.afterMove c ⟨s.id, a.number⟩).baskets.get? (b.along c s.id).id =
            some (b.along c s.id) := by
          rw [baskets_get?_afterMove hsound hself, b.along_id, hb, Option.map_some]
        rw [← b.along_customer c s.id] at hbc
        rw [← b.along_id c s.id] at hcb
        rcases @step_assignBasket _ (c.moveTo ⟨s.id, a.number⟩) _ hsound'
          (customer_afterMove hsound hc hself) hb₂ hbc hcb with ⟨b', htake⟩
        rw [b.along_id] at htake hcb
        rw [afterAssign_afterMove_eq hsound hself hb hcb] at htake
        exact ⟨_, _, _, (run_eq_ok_iff_step hsound rfl).2 ⟨htoken', hwalk⟩,
          (run_eq_ok_iff_step hsound' rfl).2 ⟨htoken, htake⟩⟩

end Orders

/-- Taking a basket and walking commute. If a customer can take a basket and then walk to an aisle,
    they can walk there and then take it, and the other way round, and both orders end in the same
    shop, down to the order of every list. -/
theorem taking_walking_commute (h : Reachable shop)
    (token token' customer basket store number : Option String) (final : Shop) :
    shop.BothLead (token, .assignCustomerBasket customer basket)
        (token', .updateCustomer customer store number) final ↔
      shop.BothLead (token', .updateCustomer customer store number)
        (token, .assignCustomerBasket customer basket) final :=
  (taken_then_afterMove_iff h.sound).trans (afterMove_then_taken_iff h.sound).symm

/-- A customer who stands in one store takes a basket and walks to the other one, in either
    order. -/
theorem walk_between_stores_commutes :
    let ask op := (some "key", op)
    let shop := Shop.runAll .empty (morning.take 8 ++
      [ask (.updateCustomer (some "ada") (some "north") (some "1")),
        ask (.provisionAisle (some "south") (some "7") (some "Bread") none none)])
    let take := ask (.assignCustomerBasket (some "ada") (some "b1"))
    let walk := ask (.updateCustomer (some "ada") (some "south") (some "7"))
    ∃ final, shop.BothLead take walk final ∧ shop.BothLead walk take final := by
  intro ask shop take walk
  have htake : (run take.1 take.2 shop).1.isOk = true := by decide +kernel
  have hwalk : (run walk.1 walk.2 (run take.1 take.2 shop).2).1.isOk = true := by decide +kernel
  have hboth : ∃ final, shop.BothLead take walk final := by
    rcases hfirst : run take.1 take.2 shop with ⟨_ | r, next⟩
    · rw [hfirst] at htake
      cases htake
    rw [hfirst] at hwalk
    rcases hsecond : run walk.1 walk.2 next with ⟨_ | r', final⟩
    · rw [hsecond] at hwalk
      cases hwalk
    exact ⟨final, r, next, r', hfirst, hsecond⟩
  rcases hboth with ⟨final, hlead⟩
  exact ⟨final, hlead, (taking_walking_commute (Reachable.empty.runAll _) _ _ _ _ _ _ _).1 hlead⟩

end Shop

end Shopfloor
