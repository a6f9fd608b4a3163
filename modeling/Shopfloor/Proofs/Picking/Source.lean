import Shopfloor.Proofs.Act.Handover
import Shopfloor.Proofs.Keyed.Undo
import Shopfloor.Proofs.Reachable
/-!
# Picking from a Shelf

One request to take units of a product into a basket.

Where the units come from is settled by where the owner of the basket stands and
by what stands in that aisle. It is settled before anybody looks at a count, so
it can be said as a function of the shop: `Shop.source?` is the inventory that
the product is resolved to, if the owner stands beside it, and nothing if the
request is refused for another reason than a count.

With that, a request has two outcomes. If there is a source and the source has
the units, they change places, and `Shop.handed` says so of the whole shop at
once. Otherwise the request is refused and nothing happens. Whether a request that
is carried out is also answered depends on its quantity alone, which the line about
it names.

## Main definitions

* `Pick`: A request to take units of a product into a basket.
* `Shop.source?`: The inventory that the units come from.
* `Shop.handed`: The shop after units have changed places.

## Theorems

* `source?_eq_some_iff`: What it takes to have a source.
* `traded_eq`, `traded_eq_handed`: What is written when units change hands.
* `attempt_pick`, `run_pick`: The units are there.
* `attempt_pick_refused`: They are not, or there is no source.
-/

namespace Shopfloor

/-- A request to take units of a product from a shelf into a basket. -/
structure Pick where
  basket : Option String
  product : Option String
  quantity : Int
deriving DecidableEq, Repr

/-- The operation that is asked for. -/
def Pick.operation (pick : Pick) : Operation :=
  .addBasketProduct pick.basket pick.product (some pick.quantity)

/-- A basket with the units of a pick in it. -/
def Basket.holding (b : Basket) (pick : Pick) : Basket :=
  match pick.product with
  | some p => { b with lines := b.lines.insert p (b.quantity p + pick.quantity) }
  | none => b

namespace Shop

/-- The inventory that the units of a pick come from, which stands in the aisle in which the owner of
    the basket stands. Counts play no part in it. -/
def source? (shop : Shop) (pick : Pick) : Option Inventory := do
  let b ← shop.baskets.find? pick.basket
  let p ← pick.product
  let spot ← shop.standing b
  (choose (shop.stockOf p) (some spot)).filter fun i => i.spot.inAisle = spot

/-- The shop after the units of a pick went from an inventory into the basket. -/
def handed (shop : Shop) (pick : Pick) (i : Inventory) : Shop :=
  { shop.recount (fun j => if j = i then j.count - pick.quantity else j.count) with
    baskets := shop.baskets.mapValues fun k b =>
      if pick.basket = some k then b.holding pick else b }

variable {shop : Shop}

/-- There is a source if everything is given that is asked for, and the owner of the basket stands
    beside the inventory. -/
theorem source?_eq_some_iff (pick : Pick) (i : Inventory) :
    shop.source? pick = some i ↔
      ∃ k b p spot, pick.basket = some k ∧ shop.baskets.get? k = some b ∧ pick.product = some p ∧
        shop.standing b = some spot ∧ choose (shop.stockOf p) (some spot) = some i ∧
        i.spot.inAisle = spot := by
  unfold source?
  constructor
  · intro h
    rcases Option.bind_eq_some_iff.1 h with ⟨b, hb, h⟩
    rcases Option.bind_eq_some_iff.1 h with ⟨p, hp, h⟩
    rcases Option.bind_eq_some_iff.1 h with ⟨spot, hspot, h⟩
    rcases (Keyed.find?_eq_some_iff _ _ _).1 hb with ⟨k, hk, hb⟩
    rcases Option.filter_eq_some_iff.1 h with ⟨hi, hin⟩
    exact ⟨k, b, p, spot, hk, hb, hp, hspot, hi, of_decide_eq_true hin⟩
  · rintro ⟨k, b, p, spot, hk, hb, hp, hspot, hi, hin⟩
    have hfind : shop.baskets.find? pick.basket = some b :=
      (Keyed.find?_eq_some_iff _ _ _).2 ⟨k, hk, hb⟩
    simp [hfind, hp, hspot, hi, hin]

/-- A source is an inventory of the shop. -/
theorem keeps_of_source? (hf : Filing shop.stores) {pick : Pick} {i : Inventory}
    (h : shop.source? pick = some i) : shop.Keeps i := by
  rcases (source?_eq_some_iff pick i).1 h with ⟨_, _, _, _, _, _, _, _, hi, _⟩
  exact (choose_keeps hf hi).1

/-- Whoever stands somewhere owns the basket. -/
theorem exists_owner_of_standing {b : Basket} {spot : AisleSpot}
    (h : shop.standing b = some spot) : ∃ owner, b.customer = some owner := by
  cases hc : b.customer with
  | some owner => exact ⟨owner, rfl⟩
  | none =>
      unfold standing at h
      rw [hc] at h
      cases h

/-- A basket that is written back is changed in its place. -/
theorem Sound.adjust_baskets (hsound : shop.Sound) {k : String} {b : Basket}
    (hb : shop.baskets.get? k = some b) (f : Basket → Basket) (hid : (f b).id = b.id) :
    (shop.baskets.adjust (f b).id fun _ => f b) = shop.baskets.adjust k f := by
  rw [hid, (hsound.basket_self hb).1]
  refine Keyed.adjust_congr _ fun b' hb' => ?_
  rw [hb, Option.some.injEq] at hb'
  rw [hb']

/-- A basket that is written back as it was changes nothing. -/
theorem Sound.putBasket_self (hsound : shop.Sound) {k : String} {b : Basket}
    (hb : shop.baskets.get? k = some b) : shop.putBasket b = shop := by
  have hself := (hsound.basket_self hb).2
  unfold putBasket
  rw [Keyed.adjust_eq_self]
  intro b' hb'
  rw [hself, Option.some.injEq] at hb'
  exact hb'

/-- What is written when units change hands: one inventory has another count, and one basket is
    another. -/
theorem traded_eq (hsound : shop.Sound) {k : String} {b : Basket} {i : Inventory}
    (hb : shop.baskets.get? k = some b) (hi : shop.Keeps i) (f : Basket → Basket)
    (hid : (f b).id = b.id) (delta : Int) :
    shop.traded { i with count := i.count + delta } (f b) =
      { shop.recount (fun j => if j = i then j.count + delta else j.count) with
        baskets := shop.baskets.adjust k f } := by
  -- Only the count of one inventory is written; here every inventory is counted anew.
  have hcounts : (fun j : Inventory => if j = i then i.count + delta else j.count) =
      fun j => if j = i then j.count + delta else j.count := by
    funext j
    by_cases hj : j = i
    · rw [if_pos hj, if_pos hj, hj]
    · rw [if_neg hj, if_neg hj]
  unfold traded
  rw [hsound.putInventory_eq_recount hi, hcounts, ← hsound.adjust_baskets hb f hid]
  rfl

/-- What is written for a pick is the shop with the units in their new place. -/
theorem traded_eq_handed (hsound : shop.Sound) {k p : String} {b : Basket}
    {i : Inventory} {q : Int} (hb : shop.baskets.get? k = some b) (hi : shop.Keeps i) :
    shop.traded { i with count := i.count - q } (b.plus p q) =
      shop.handed ⟨some k, some p, q⟩ i := by
  refine (traded_eq hsound hb hi (·.plus p q) rfl (-q)).trans ?_
  unfold handed
  refine congrArg (fun m => { shop.recount _ with baskets := m })
    (Keyed.mapValues_congr _ fun k' b' _ => ?_)
  by_cases hk : k' = k
  · rw [if_pos hk, if_pos (congrArg some hk.symm)]
    rfl
  · rw [if_neg hk, if_neg fun he => hk (Option.some.inj he).symm]

/-- A pick from a source that has the units is carried out, and the units change places. -/
theorem attempt_pick (hsound : shop.Sound) {token : Option String} (htoken : isToken token = true)
    {pick : Pick} {i : Inventory} (hsource : shop.source? pick = some i)
    (hpos : 0 < pick.quantity) (hle : pick.quantity ≤ i.count) :
    ∃ b, shop.baskets.find? pick.basket = some b ∧
      (attempt token pick.operation).runIn shop =
        (.ok (.basket (b.holding pick)), shop.handed pick i) := by
  have hkept := keeps_of_source? hsound.filed.floor hsource
  rcases (source?_eq_some_iff pick i).1 hsource with ⟨k, b, p, spot, hk, hb, hp, hspot, hi, hin⟩
  rcases pick with ⟨basket, product, q⟩
  dsimp only at hk hp hpos hle
  subst hk hp
  rcases exists_owner_of_standing hspot with ⟨owner, howner⟩
  have hcapacity := (hsound.stocked.of_keeps hkept).2.1
  have hhandover : shop.handover "Add Basket Product" b p (shop.standing b) = .ok i :=
    (handover_eq_ok_iff _ _ _ _ _).2 ⟨owner, spot, howner, hspot, hi, hin⟩
  have htaking := (taking_eq_ok_iff "Add Basket Product" b p q _ _).2
    ⟨i, hpos, hhandover, hle, by omega, rfl⟩
  refine ⟨b, hb, ?_⟩
  change (attempt token (.addBasketProduct (some k) (some p) (some q))).runIn shop = _
  rw [attempt_of_isToken htoken, runIn_taking hb, htaking]
  exact congrArg (_, ·) (traded_eq_handed hsound hb hkept)

/-- A pick without a source, or from one that has too little, is refused. -/
theorem attempt_pick_refused (hsound : shop.Sound) {token : Option String} {pick : Pick}
    (hrefused : ∀ i, shop.source? pick = some i → i.count < pick.quantity) :
    ∃ e, (attempt token pick.operation).runIn shop = (.error e, shop) := by
  have hmeets := attempt_meets hsound token pick.operation
  rcases hrun : (attempt token pick.operation).runIn shop with ⟨e | reply, shop'⟩
  · rw [hmeets.error e shop' hrun]
    exact ⟨e, rfl⟩
  · exfalso
    rcases pick with ⟨basket, product, q⟩
    -- Had it been carried out, it would have had a source with the units.
    cases (hmeets.ok reply shop' hrun).2 with
    | query hquery => cases hquery
    | takeIntoBasket hb _ _ hspot hi hin hle _ _ _ =>
        have hlt := hrefused _ ((source?_eq_some_iff _ _).2
          ⟨_, _, _, _, rfl, hb, rfl, hspot, hi, hin⟩)
        dsimp only at hlt hle
        omega

/-- How a pick ends whose units are there: as its line can be written or not. -/
theorem run_pick (hsound : shop.Sound) {token : Option String} (htoken : isToken token = true)
    {pick : Pick} {i : Inventory} (hsource : shop.source? pick = some i)
    (hpos : 0 < pick.quantity) (hle : pick.quantity ≤ i.count) :
    ∃ b, shop.baskets.find? pick.basket = some b ∧
      run token pick.operation shop =
        ((b.holding pick).logged pick.quantity, shop.handed pick i) := by
  rcases attempt_pick hsound htoken hsource hpos hle with ⟨b, hb, hdone⟩
  refine ⟨b, hb, ?_⟩
  rw [run_eq_attempt, hdone]
  dsimp only [Except.bind, Pick.operation]
  rw [Basket.recorded_taking]

end Shop

end Shopfloor
