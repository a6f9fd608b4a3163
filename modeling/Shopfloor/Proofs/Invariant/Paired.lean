import Shopfloor.Proofs.Invariant.Stocked
/-!
# Steps Keep Owners and Baskets Paired

The customer who holds a basket is its owner, and the owner holds it.

Only taking a basket writes either side, and it writes both. Its two checks are
what makes this enough. A basket that has another owner is refused, and so is a
customer who holds another basket, so the pair that is written does not break
one that is there. Every other operation leaves both sides as they are, which
the lemmas about `basketOf` and `ownerOf` say one reader at a time.

Readers look at one field, and most operations write another. Hence the two
rules that carry all of these lemmas: `bind_mapValues` for changes in place that
spare the field, and `bind_insert` for a registration in which it is empty.

## Theorems

* `Keyed.bind_mapValues`, `Keyed.bind_insert`: Changes that a reader does not see.
* `basketOf_afterMove`, `ownerOf_afterMove`, `spotOf_afterMove`, `cartOf_afterMove`: Moving.
* `basketOf_afterAssign`, `ownerOf_afterAssign`: What a customer and a basket hold of each other.
* `spotOf_afterAssign`, `cartOf_afterAssign`: Where they are.
* `Paired.afterAssign`: A new pair among the others.
* `Step.paired`: Every step keeps owners and baskets paired.
-/

namespace Shopfloor

namespace Keyed

variable {α β : Type}

/-- A reader does not see a change in place that spares what it reads. -/
theorem bind_mapValues (m : Keyed α) (f : String → α → α) (g : α → Option β) (x : String)
    (h : ∀ v, m.get? x = some v → g (f x v) = g v) :
    ((m.mapValues f).get? x).bind g = (m.get? x).bind g := by
  rw [get?_mapValues]
  cases hx : m.get? x with
  | none => rfl
  | some v =>
      rw [Option.map_some, Option.bind_some, Option.bind_some]
      exact h v hx

/-- A reader does not see a new entry in which there is nothing to read. -/
theorem bind_insert (m : Keyed α) (k : String) (v : α) (g : α → Option β) (x : String)
    (hk : m.get? k = none) (hv : g v = none) :
    ((m.insert k v).get? x).bind g = (m.get? x).bind g := by
  rw [get?_insert]
  by_cases hx : x = k
  · rw [if_pos hx, hx, hk, Option.bind_some, hv, Option.bind_none]
  · rw [if_neg hx]

/-- What a reader sees of a change under one key. -/
theorem bind_adjust (m : Keyed α) (k : String) (f : α → α) (g : α → Option β) {v : α}
    (hk : m.get? k = some v) (x : String) :
    ((m.adjust k f).get? x).bind g = if x = k then g (f v) else (m.get? x).bind g := by
  rw [get?_adjust]
  by_cases hx : x = k
  · rw [if_pos hx, if_pos hx, hx, hk, Option.map_some, Option.bind_some]
  · rw [if_neg hx, if_neg hx]

end Keyed

namespace Shop

variable {shop shop' : Shop}

theorem basketOf_of_get? {k : String} {c : Customer} (hc : shop.customers.get? k = some c) :
    shop.basketOf k = c.basket := by
  unfold basketOf
  rw [hc, Option.bind_some]

theorem spotOf_of_get? {k : String} {c : Customer} (hc : shop.customers.get? k = some c) :
    shop.spotOf k = c.spot := by
  unfold spotOf
  rw [hc, Option.bind_some]

theorem ownerOf_of_get? {k : String} {b : Basket} (hb : shop.baskets.get? k = some b) :
    shop.ownerOf k = b.customer := by
  unfold ownerOf
  rw [hb, Option.bind_some]

theorem cartOf_of_get? {k : String} {b : Basket} (hb : shop.baskets.get? k = some b) :
    shop.cartOf k = b.store := by
  unfold cartOf
  rw [hb, Option.bind_some]

section AfterMove

variable {c : Customer} {spot : AisleSpot} {s : Store}

theorem basketOf_afterMove (hc : shop.customers.get? c.id = some c)
    (hids : shop.baskets.All fun k b => b.id = k) (hs : shop.stores.get? spot.store = some s)
    (x : String) : (shop.afterMove c spot).basketOf x = shop.basketOf x := by
  rw [afterMove_eq hids hs]
  unfold basketOf
  rw [Keyed.bind_adjust _ _ _ _ hc]
  by_cases hx : x = c.id
  · rw [if_pos hx, hx, hc]
    rfl
  · rw [if_neg hx]

theorem spotOf_afterMove (hc : shop.customers.get? c.id = some c)
    (hids : shop.baskets.All fun k b => b.id = k) (hs : shop.stores.get? spot.store = some s)
    (x : String) :
    (shop.afterMove c spot).spotOf x = if x = c.id then some spot else shop.spotOf x := by
  rw [afterMove_eq hids hs]
  exact Keyed.bind_adjust _ _ _ _ hc x

theorem ownerOf_afterMove (hids : shop.baskets.All fun k b => b.id = k)
    (hs : shop.stores.get? spot.store = some s) (x : String) :
    (shop.afterMove c spot).ownerOf x = shop.ownerOf x := by
  rw [afterMove_eq hids hs]
  refine Keyed.bind_mapValues _ _ _ x fun b _ => ?_
  split <;> rfl

/-- A basket that is held goes along, and every other stays where it is. -/
theorem cartOf_afterMove (hids : shop.baskets.All fun k b => b.id = k)
    (hs : shop.stores.get? spot.store = some s) {x : String} {b : Basket}
    (hb : shop.baskets.get? x = some b) :
    (shop.afterMove c spot).cartOf x =
      if c.basket = some x then some spot.store else shop.cartOf x := by
  rw [afterMove_eq hids hs]
  unfold cartOf
  rw [Keyed.get?_mapValues, hb, Option.map_some, Option.bind_some, Option.bind_some]
  split <;> rfl

end AfterMove

section AfterAssign

variable {c : Customer} {b : Basket}

theorem basketOf_afterAssign (hc : shop.customers.get? c.id = some c)
    (hb : shop.baskets.get? b.id = some b)
    (hspot : ∀ spot, c.spot = some spot → ∃ s, shop.stores.get? spot.store = some s) (x : String) :
    (shop.afterAssign c b).basketOf x = if x = c.id then some b.id else shop.basketOf x := by
  rw [afterAssign_eq hb hspot]
  exact Keyed.bind_adjust _ _ _ _ hc x

theorem spotOf_afterAssign (hb : shop.baskets.get? b.id = some b)
    (hspot : ∀ spot, c.spot = some spot → ∃ s, shop.stores.get? spot.store = some s) (x : String) :
    (shop.afterAssign c b).spotOf x = shop.spotOf x := by
  rw [afterAssign_eq hb hspot]
  refine Keyed.bind_mapValues _ _ _ x fun c' _ => ?_
  split <;> rfl

theorem ownerOf_afterAssign (hb : shop.baskets.get? b.id = some b)
    (hspot : ∀ spot, c.spot = some spot → ∃ s, shop.stores.get? spot.store = some s) (x : String) :
    (shop.afterAssign c b).ownerOf x = if x = b.id then some c.id else shop.ownerOf x := by
  rw [afterAssign_eq hb hspot]
  exact Keyed.bind_adjust _ _ _ _ hb x

theorem cartOf_afterAssign (hb : shop.baskets.get? b.id = some b)
    (hspot : ∀ spot, c.spot = some spot → ∃ s, shop.stores.get? spot.store = some s) (x : String) :
    (shop.afterAssign c b).cartOf x =
      if x = b.id then (c.spot.map AisleSpot.store).or b.store else shop.cartOf x := by
  rw [afterAssign_eq hb hspot]
  exact Keyed.bind_adjust _ _ _ _ hb x

end AfterAssign

/-- Closing a store changes neither who holds what nor who owns what. -/
theorem basketOf_without (s : Store) (x : String) :
    (shop.without s).basketOf x = shop.basketOf x := by
  refine Keyed.bind_mapValues _ _ _ x fun c _ => ?_
  split <;> rfl

theorem ownerOf_without (s : Store) (x : String) :
    (shop.without s).ownerOf x = shop.ownerOf x := by
  refine Keyed.bind_mapValues _ _ _ x fun b _ => ?_
  split <;> rfl

/-- Writing back a basket of the same owner changes no owner. -/
theorem ownerOf_putBasket {b b' : Basket} {k : String} (hids : shop.baskets.All fun k b => b.id = k)
    (hb : shop.baskets.get? k = some b) (hid : b'.id = b.id) (hc : b'.customer = b.customer)
    (x : String) : (shop.putBasket b').ownerOf x = shop.ownerOf x := by
  refine Keyed.bind_mapValues _ _ _ x fun v hv => ?_
  by_cases hx : x = b'.id
  · rw [hx, hid, hids k b hb, hb, Option.some.injEq] at hv
    rw [if_pos hx, ← hv, hc]
  · rw [if_neg hx]

theorem cartOf_putBasket {b b' : Basket} {k : String} (hids : shop.baskets.All fun k b => b.id = k)
    (hb : shop.baskets.get? k = some b) (hid : b'.id = b.id) (hs : b'.store = b.store)
    (x : String) : (shop.putBasket b').cartOf x = shop.cartOf x := by
  refine Keyed.bind_mapValues _ _ _ x fun v hv => ?_
  by_cases hx : x = b'.id
  · rw [hx, hid, hids k b hb, hb, Option.some.injEq] at hv
    rw [if_pos hx, ← hv, hs]
  · rw [if_neg hx]

/-- What is paired stays paired if nobody sees a change on either side. -/
theorem Paired.of_eq (h : shop.Paired) (hc : ∀ c, shop'.basketOf c = shop.basketOf c)
    (hb : ∀ b, shop'.ownerOf b = shop.ownerOf b) : shop'.Paired := by
  intro c b
  rw [hc, hb]
  exact h c b

/-- A customer who holds nothing else takes a basket that nobody else has, and the new pair is the
    only one of either. -/
theorem Paired.afterAssign {c : Customer} {b : Basket} (h : shop.Paired)
    (hc : shop.customers.get? c.id = some c) (hb : shop.baskets.get? b.id = some b)
    (hspot : ∀ spot, c.spot = some spot → ∃ s, shop.stores.get? spot.store = some s)
    (hbc : ∀ owner, b.customer = some owner → owner = c.id)
    (hcb : ∀ held, c.basket = some held → held = b.id) : (shop.afterAssign c b).Paired := by
  intro x y
  rw [basketOf_afterAssign hc hb hspot, ownerOf_afterAssign hb hspot]
  by_cases hx : x = c.id
  · rw [if_pos hx, Option.some.injEq]
    by_cases hy : y = b.id
    · rw [if_pos hy, hx, hy]
      exact ⟨fun _ => rfl, fun _ => rfl⟩
    · rw [if_neg hy]
      refine ⟨fun he => absurd he.symm hy, fun ho => ?_⟩
      have hheld := (h x y).2 ho
      rw [hx, basketOf_of_get? hc] at hheld
      exact absurd (hcb y hheld) hy
  · rw [if_neg hx]
    by_cases hy : y = b.id
    · rw [if_pos hy, Option.some.injEq]
      refine ⟨fun hheld => ?_, fun he => absurd he.symm hx⟩
      have ho := (h x y).1 hheld
      rw [hy, ownerOf_of_get? hb] at ho
      exact absurd (hbc x ho) hx
    · rw [if_neg hy]
      exact h x y

/-- Every step keeps owners and baskets paired. -/
theorem Step.paired {op : Operation} {r : Reply} (h : Step shop op r shop')
    (hsound : shop.Sound) : shop'.Paired := by
  have hp := hsound.paired
  have hids := hsound.filed.baskets
  cases h with
  | query _ => exact hp
  | openStore _ => exact hp
  | updateStore _ _ _ _ => exact hp
  | @closeStore _ s hs => exact hp.of_eq (basketOf_without s) (ownerOf_without s)
  | openAisle _ _ _ _ _ _ => exact hp
  | putUpShelf _ _ _ _ _ _ _ _ _ => exact hp
  | addProduct _ _ _ _ _ _ _ _ _ => exact hp
  | addInventory _ _ _ _ _ _ _ _ _ _ _ => exact hp
  | adjustInventory _ _ _ _ => exact hp
  | addCustomer _ hi _ hc =>
      subst hc
      exact hp.of_eq (fun x => Keyed.bind_insert _ _ _ _ x hi rfl) fun _ => rfl
  | moveCustomer hc hs _ =>
      have hself := (hsound.customer_self hc).2
      have hstore := (hsound.store_self hs).2
      exact hp.of_eq (basketOf_afterMove hself hids hstore) (ownerOf_afterMove hids hstore)
  | addBasket hi hb =>
      subst hb
      exact hp.of_eq (fun _ => rfl) fun x => Keyed.bind_insert _ _ _ _ x hi rfl
  | assignBasket hc hb hbc hcb _ =>
      exact hp.afterAssign (hsound.customer_self hc).2 (hsound.basket_self hb).2
        (hsound.placed.spot_store hc) hbc hcb
  | takeIntoBasket hb _ _ _ _ _ _ _ _ hb' =>
      subst hb'
      exact hp.of_eq (fun _ => rfl) (ownerOf_putBasket hids hb rfl rfl)
  | putBackFromBasket hb _ _ _ _ _ _ _ _ _ _ hb' =>
      subst hb'
      exact hp.of_eq (fun _ => rfl) (ownerOf_putBasket hids hb rfl rfl)
  | emptyBasket hb => exact hp.of_eq (fun _ => rfl) (ownerOf_putBasket hids hb rfl rfl)
  | installDevice _ _ _ _ _ _ => exact hp
  | raiseEvent _ _ _ => exact hp
  | issueCommand _ _ _ _ => exact hp

end Shop

end Shopfloor
