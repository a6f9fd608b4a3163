import Shopfloor.Proofs.Invariant.Paired
/-!
# Steps Keep People Where They Are Listed

A customer is on the list of the store they are in and on no other, a basket is
on the list of the store it is in and on no other, and a basket is where its
owner is.

Four operations change any of this: a customer walks, a customer takes a
basket, a store closes, and a store opens. A walk moves the customer and the
basket they hold, which is the one they own because the two are paired. Taking a
basket moves the basket to its new owner; it was nowhere before, or with the
same customer. When a store closes, everybody on its lists is nowhere
afterwards, and the lists of the other stores are not touched. A store that
opens begins with empty lists, and nobody is in it yet: whoever was somewhere
was in a store that was open then. This is where a store closed and opened
again under the same id would go wrong if anybody were forgotten.

All other operations leave lists, places and owners alone.

## Theorems

* `listsAfter_lists`: A list of baskets after one was carried.
* `Placed.putStore`, `Placed.mapStores`, `Placed.of_eq`: Changes that move nobody.
* `customers_afterMove`, `baskets_afterMove`, `baskets_afterAssign`: The lists afterwards.
* `placed_afterMove`, `placed_afterAssign`, `placed_without`, `placed_opened`: All four clauses.
* `Placed.recount`, `Placed.recount_putBasket`: Counts and lines move nobody.
* `Step.placed`: Every step keeps people where they are listed.
-/

namespace Shopfloor

theorem Store.HasAisle.insert {aisles : Keyed Aisle} {x n : String} {a : Aisle}
    (h : ∃ a', aisles.get? x = some a') : ∃ a', (aisles.insert n a).get? x = some a' := by
  rw [Keyed.get?_insert]
  by_cases hx : x = n
  · rw [if_pos hx]
    exact ⟨a, rfl⟩
  · rw [if_neg hx]
    exact h

namespace Shop

variable {shop shop' : Shop}

theorem storeOf_eq_some_iff (c k : String) :
    shop.storeOf c = some k ↔ ∃ spot, shop.spotOf c = some spot ∧ spot.store = k :=
  Option.map_eq_some_iff

theorem storeOf_of_get? {k : String} {c : Customer} (hc : shop.customers.get? k = some c) :
    shop.storeOf k = c.spot.map AisleSpot.store :=
  congrArg (Option.map AisleSpot.store) (spotOf_of_get? hc)

/-- An aisle that is there is still there after changes that spare aisles. -/
theorem aisle_mapValues {stores : Keyed Store} {f : String → Store → Store}
    (ha : ∀ k s, (f k s).aisles = s.aisles) {spot : AisleSpot}
    (h : ∃ s, stores.get? spot.store = some s ∧ s.HasAisle spot.aisle) :
    ∃ s, (stores.mapValues f).get? spot.store = some s ∧ s.HasAisle spot.aisle := by
  rcases h with ⟨s, hs, haisle⟩
  refine ⟨f spot.store s, ?_, ?_⟩
  · rw [Keyed.get?_mapValues, hs, Option.map_some]
  · unfold Store.HasAisle
    rw [ha]
    exact haisle

/-- Nobody is in a store that is not there. -/
theorem Placed.storeOf_ne (h : shop.Placed) {k : String} (hk : shop.stores.get? k = none)
    (c : String) : ¬ shop.storeOf c = some k := by
  intro hc
  rcases (storeOf_eq_some_iff c k).1 hc with ⟨spot, hspot, hstore⟩
  rcases h.standing c spot hspot with ⟨s, hs, -⟩
  rw [hstore, hk] at hs
  cases hs

/-- No basket is in a store that is not there. -/
theorem Placed.cartOf_ne (h : shop.Placed) {k : String} (hk : shop.stores.get? k = none)
    (b : String) : ¬ shop.cartOf b = some k := by
  intro hb
  rw [h.together, Option.bind_eq_some_iff] at hb
  rcases hb with ⟨c, -, hc⟩
  exact h.storeOf_ne hk c hc

/-- The list of baskets of a store after one basket was carried to a store. -/
theorem listsAfter_lists {s : Store} {at₀ at₁ : String → Option String} {here store : String}
    {b : Basket} (h : s.baskets.Lists fun x => at₀ x = some here) (hb : at₀ b.id = b.store)
    (hid : at₁ b.id = some store) (hother : ∀ x, x ≠ b.id → at₁ x = at₀ x) :
    (listsAfter s here b store).Lists fun x => at₁ x = some here := by
  unfold listsAfter
  by_cases hthere : b.store = some store
  · -- It was in the store already, so every basket is where it was.
    rw [if_pos hthere]
    refine h.congr fun x => ?_
    by_cases hx : x = b.id
    · rw [hx, hid, hb, hthere]
    · rw [hother x hx]
  · rw [if_neg hthere, ← hb]
    exact h.passed hid hother

/-- People stay placed if no list and no reader changes. -/
theorem Placed.of_eq (h : shop.Placed) (hstores : shop'.stores = shop.stores)
    (hspot : ∀ c, shop'.spotOf c = shop.spotOf c) (howner : ∀ b, shop'.ownerOf b = shop.ownerOf b)
    (hcart : ∀ b, shop'.cartOf b = shop.cartOf b) : shop'.Placed := by
  have hstore : ∀ c, shop'.storeOf c = shop.storeOf c := fun c =>
    congrArg (Option.map AisleSpot.store) (hspot c)
  constructor
  · rw [hstores]
    exact h.customers.mono fun k s hs => hs.congr fun c => by rw [hstore]
  · rw [hstores]
    exact h.baskets.mono fun k s hs => hs.congr fun b => by rw [hcart]
  · intro c spot hc
    rw [hstores]
    exact h.standing c spot ((hspot c).symm.trans hc)
  · intro b
    rw [hcart, howner, h.together]
    -- A basket is where its owner is, if it has one.
    cases shop.ownerOf b with
    | none => rfl
    | some c => exact (hstore c).symm

/-- People stay placed if stores change in something else than lists and aisles. -/
theorem Placed.mapStores (h : shop.Placed) {f : String → Store → Store}
    (hc : ∀ k s, (f k s).customers = s.customers) (hb : ∀ k s, (f k s).baskets = s.baskets)
    (ha : ∀ k s, (f k s).aisles = s.aisles) :
    ({ shop with stores := shop.stores.mapValues f } : Shop).Placed := by
  refine ⟨?_, ?_, ?_, h.together⟩
  · refine h.customers.mapValues fun k s hs => ?_
    rw [hc]
    exact hs
  · refine h.baskets.mapValues fun k s hs => ?_
    rw [hb]
    exact hs
  · exact fun c spot hspot => aisle_mapValues ha (h.standing c spot hspot)

/-- A store may be written back with the same lists and with all of its aisles. -/
theorem Placed.putStore (h : shop.Placed) {k : String} {s s' : Store}
    (hs : shop.stores.get? k = some s) (hid : s'.id = k) (hc : s'.customers = s.customers)
    (hb : s'.baskets = s.baskets) (ha : ∀ n, s.HasAisle n → s'.HasAisle n) :
    (shop.putStore s').Placed := by
  refine ⟨h.customers.insert ?_, h.baskets.insert ?_, ?_, h.together⟩
  · rw [hc, hid]
    exact h.customers k s hs
  · rw [hb, hid]
    exact h.baskets k s hs
  · intro c spot hspot
    rcases h.standing c spot hspot with ⟨s₀, hs₀, haisle⟩
    unfold Shop.putStore
    dsimp only
    rw [Keyed.get?_insert]
    -- Who stands in the store that is written finds the aisle in it again.
    by_cases hk : spot.store = s'.id
    · rw [if_pos hk]
      rw [hk, hid, hs, Option.some.injEq] at hs₀
      exact ⟨s', rfl, ha _ (hs₀ ▸ haisle)⟩
    · rw [if_neg hk]
      exact ⟨s₀, hs₀, haisle⟩

/-- A store opens, and nobody is in it. -/
theorem placed_opened (h : shop.Placed) {s : Store} (hk : shop.stores.get? s.id = none)
    (hc : s.customers = .empty) (hb : s.baskets = .empty) : (shop.putStore s).Placed := by
  refine ⟨h.customers.insert ?_, h.baskets.insert ?_, ?_, h.together⟩
  · rw [hc]
    exact Keyed.lists_empty (h.storeOf_ne hk)
  · rw [hb]
    exact Keyed.lists_empty (h.cartOf_ne hk)
  · intro c spot hspot
    rcases h.standing c spot hspot with ⟨s₀, hs₀, haisle⟩
    unfold Shop.putStore
    dsimp only
    rw [Keyed.get?_insert]
    -- Nobody stands in the store that opens, for it was not there.
    by_cases hstore : spot.store = s.id
    · rw [hstore, hk] at hs₀
      cases hs₀
    · rw [if_neg hstore]
      exact ⟨s₀, hs₀, haisle⟩

/-- The basket that a customer holds is the one that they own. -/
theorem Paired.held_iff (hp : shop.Paired) {k : String} {c : Customer}
    (hc : shop.customers.get? k = some c) (x : String) :
    c.basket = some x ↔ shop.ownerOf x = some k := by
  rw [← basketOf_of_get? hc]
  exact hp k x

section AfterMove

variable {c : Customer} {spot : AisleSpot} {s : Store} (hids : shop.baskets.All fun k b => b.id = k)
  (hc : shop.customers.get? c.id = some c) (hs : shop.stores.get? spot.store = some s)
include hids hs

theorem stores_afterMove : (shop.afterMove c spot).stores = shop.stores.mapValues fun x s =>
    { s with
      customers := s.customers.passed c.id x (c.spot.map AisleSpot.store) spot.store
      baskets := (shop.baskets.find? c.basket).elim s.baskets fun b =>
        listsAfter s x b spot.store } := by
  rw [afterMove_eq hids hs]

include hc

theorem storeOf_afterMove (x : String) : (shop.afterMove c spot).storeOf x =
    if x = c.id then some spot.store else shop.storeOf x := by
  unfold storeOf
  rw [spotOf_afterMove hc hids hs]
  by_cases hx : x = c.id
  · rw [if_pos hx, if_pos hx, Option.map_some]
  · rw [if_neg hx, if_neg hx]

/-- What a customer owns goes along, and every other basket stays where it is. -/
theorem cartOf_afterMove_of_owner (hp : shop.Paired) (x : String) :
    (shop.afterMove c spot).cartOf x =
      if shop.ownerOf x = some c.id then some spot.store else shop.cartOf x := by
  cases hb : shop.baskets.get? x with
  | none =>
      -- A basket that is not registered is nowhere and has no owner.
      have hgone : (shop.afterMove c spot).cartOf x = none := by
        rw [afterMove_eq hids hs]
        unfold cartOf
        rw [Keyed.get?_mapValues, hb]
        rfl
      unfold ownerOf cartOf at *
      rw [hgone, hb, Option.bind_none, Option.bind_none, if_neg (by simp)]
  | some b =>
      rw [cartOf_afterMove hids hs hb]
      by_cases hx : c.basket = some x
      · rw [if_pos hx, if_pos ((hp.held_iff hc x).1 hx)]
      · rw [if_neg hx, if_neg fun ho => hx ((hp.held_iff hc x).2 ho)]

/-- The lists of customers, after one of them walked. -/
theorem customers_afterMove (h : shop.Placed) : (shop.afterMove c spot).stores.All fun k s =>
    s.customers.Lists fun x => (shop.afterMove c spot).storeOf x = some k := by
  intro k s' hs'
  rw [stores_afterMove hids hs, Keyed.get?_mapValues, Option.map_eq_some_iff] at hs'
  rcases hs' with ⟨s₀, hs₀, rfl⟩
  rw [← storeOf_of_get? hc]
  refine (h.customers k s₀ hs₀).passed ?_ fun x hx => ?_
  · rw [storeOf_afterMove hids hc hs, if_pos rfl]
  · rw [storeOf_afterMove hids hc hs, if_neg hx]

/-- The lists of baskets, after a customer walked who may hold one. -/
theorem baskets_afterMove (h : shop.Placed) (hp : shop.Paired) :
    (shop.afterMove c spot).stores.All fun k s =>
      s.baskets.Lists fun x => (shop.afterMove c spot).cartOf x = some k := by
  have hcart := cartOf_afterMove_of_owner hids hc hs hp
  intro k s' hs'
  rw [stores_afterMove hids hs, Keyed.get?_mapValues, Option.map_eq_some_iff] at hs'
  rcases hs' with ⟨s₀, hs₀, rfl⟩
  dsimp only
  cases hfind : shop.baskets.find? c.basket with
  | none =>
      -- The customer owns no basket, so every basket stays where it is.
      refine (h.baskets k s₀ hs₀).congr fun x => ?_
      have hno : ¬ shop.ownerOf x = some c.id := by
        intro ho
        rcases Option.bind_eq_some_iff.1 ho with ⟨b, hb, -⟩
        rw [(hp.held_iff hc x).2 ho, Keyed.find?_some, hb] at hfind
        cases hfind
      rw [hcart, if_neg hno]
  | some b =>
      rcases (Keyed.find?_eq_some_iff _ _ _).1 hfind with ⟨y, hy, hb⟩
      have hid := hids y b hb
      subst hid
      refine listsAfter_lists (h.baskets k s₀ hs₀) (cartOf_of_get? hb) ?_ fun x hx => ?_
      · rw [hcart, if_pos ((hp.held_iff hc b.id).1 hy)]
      · have hno : ¬ shop.ownerOf x = some c.id := by
          intro ho
          have hx' := (hp.held_iff hc x).2 ho
          rw [hy, Option.some.injEq] at hx'
          exact hx hx'.symm
        rw [hcart, if_neg hno]

/-- A customer walks to an aisle that is there. -/
theorem placed_afterMove (h : shop.Placed) (hp : shop.Paired) (ha : s.HasAisle spot.aisle) :
    (shop.afterMove c spot).Placed := by
  refine ⟨customers_afterMove hids hc hs h, baskets_afterMove hids hc hs h hp, ?_, ?_⟩
  · intro x spot' hx
    rw [stores_afterMove hids hs]
    refine aisle_mapValues ?_ ?_
    · exact fun _ _ => rfl
    · rw [spotOf_afterMove hc hids hs] at hx
      by_cases hxc : x = c.id
      · rw [if_pos hxc, Option.some.injEq] at hx
        rw [← hx]
        exact ⟨s, hs, ha⟩
      · rw [if_neg hxc] at hx
        exact h.standing x spot' hx
  · intro x
    rw [cartOf_afterMove_of_owner hids hc hs hp, ownerOf_afterMove hids hs]
    -- The owner of a basket is the one who walked, or stands where they stood.
    cases ho : shop.ownerOf x with
    | none =>
        rw [if_neg (by simp), h.together, ho]
        rfl
    | some owner =>
        rw [Option.bind_some, storeOf_afterMove hids hc hs]
        by_cases hoc : owner = c.id
        · rw [if_pos hoc, if_pos (congrArg some hoc)]
        · rw [if_neg hoc, if_neg fun he => hoc (Option.some.inj he), h.together, ho]
          rfl

end AfterMove

section AfterAssign

variable {c : Customer} {b : Basket} (h : shop.Placed) (hc : shop.customers.get? c.id = some c)
  (hb : shop.baskets.get? b.id = some b)
include h hc hb

theorem storeOf_afterAssign (x : String) : (shop.afterAssign c b).storeOf x = shop.storeOf x :=
  congrArg (Option.map AisleSpot.store) (spotOf_afterAssign hb (h.spot_store hc) x)

theorem stores_afterAssign : (shop.afterAssign c b).stores = shop.stores.mapValues fun x s =>
    { s with baskets := c.spot.elim s.baskets fun spot => listsAfter s x b spot.store } := by
  rw [afterAssign_eq hb (h.spot_store hc)]

variable (hbc : ∀ owner, b.customer = some owner → owner = c.id)
include hbc

/-- A basket that nobody else has is nowhere, or with this customer already. -/
theorem spot_or_store : (c.spot.map AisleSpot.store).or b.store = c.spot.map AisleSpot.store := by
  have htogether := h.together b.id
  rw [cartOf_of_get? hb, ownerOf_of_get? hb] at htogether
  rw [htogether, ← storeOf_of_get? hc]
  cases ho : b.customer with
  | none => exact Option.or_none
  | some owner => rw [hbc owner ho, Option.bind_some, Option.or_self]

/-- A basket that is taken is where its new owner is, and every other stays where it is. -/
theorem cartOf_afterAssign_of_owner (x : String) : (shop.afterAssign c b).cartOf x =
    if x = b.id then c.spot.map AisleSpot.store else shop.cartOf x := by
  rw [cartOf_afterAssign hb (h.spot_store hc), spot_or_store h hc hb hbc]

/-- The lists of baskets, after one was taken. -/
theorem baskets_afterAssign : (shop.afterAssign c b).stores.All fun k s =>
    s.baskets.Lists fun x => (shop.afterAssign c b).cartOf x = some k := by
  have hcart := cartOf_afterAssign_of_owner h hc hb hbc
  intro k s' hs'
  rw [stores_afterAssign h hc hb, Keyed.get?_mapValues, Option.map_eq_some_iff] at hs'
  rcases hs' with ⟨s₀, hs₀, rfl⟩
  dsimp only
  cases hcs : c.spot with
  | none =>
      -- The new owner stands nowhere, and so the basket was nowhere before.
      have hbefore := spot_or_store h hc hb hbc
      refine (h.baskets k s₀ hs₀).congr fun x => ?_
      rw [hcart]
      by_cases hx : x = b.id
      · rw [if_pos hx, hx, cartOf_of_get? hb, ← hbefore, hcs]
        rfl
      · rw [if_neg hx]
  | some spot =>
      refine listsAfter_lists (h.baskets k s₀ hs₀) (cartOf_of_get? hb) ?_ fun x hx => ?_
      · rw [hcart, if_pos rfl, hcs, Option.map_some]
      · rw [hcart, if_neg hx]

/-- A customer takes a basket that nobody else has. -/
theorem placed_afterAssign : (shop.afterAssign c b).Placed := by
  refine ⟨?_, baskets_afterAssign h hc hb hbc, ?_, ?_⟩
  · intro k s' hs'
    rw [stores_afterAssign h hc hb, Keyed.get?_mapValues, Option.map_eq_some_iff] at hs'
    rcases hs' with ⟨s₀, hs₀, rfl⟩
    exact (h.customers k s₀ hs₀).congr fun x => by rw [storeOf_afterAssign h hc hb]
  · intro x spot hx
    rw [spotOf_afterAssign hb (h.spot_store hc)] at hx
    rw [stores_afterAssign h hc hb]
    refine aisle_mapValues ?_ (h.standing x spot hx)
    exact fun _ _ => rfl
  · intro x
    rw [cartOf_afterAssign_of_owner h hc hb hbc, ownerOf_afterAssign hb (h.spot_store hc)]
    -- The basket that is taken has a new owner; the others are as they were.
    by_cases hx : x = b.id
    · rw [if_pos hx, if_pos hx, Option.bind_some, storeOf_afterAssign h hc hb, storeOf_of_get? hc]
    · rw [if_neg hx, if_neg hx, h.together]
      cases shop.ownerOf x with
      | none => rfl
      | some owner => exact (storeOf_afterAssign h hc hb owner).symm

end AfterAssign

section Without

variable {s : Store}

/-- Who was in a store that closes stands nowhere, and everybody else stands where they did. -/
theorem spotOf_without (h : shop.Placed) (hs : shop.stores.get? s.id = some s) (x : String) :
    (shop.without s).spotOf x = if shop.storeOf x = some s.id then none else shop.spotOf x := by
  unfold spotOf without
  dsimp only
  rw [Keyed.get?_mapValues]
  cases hc : shop.customers.get? x with
  | none =>
      rw [Option.map_none, Option.bind_none]
      split <;> rfl
  | some c =>
      have hat : shop.storeOf x = c.spot.map AisleSpot.store := storeOf_of_get? hc
      rw [Option.map_some, Option.bind_some, Option.bind_some]
      by_cases hin : shop.storeOf x = some s.id
      · -- Whoever is in the store is on its list.
        have hlists := h.customers _ s hs
        rcases (Keyed.contains_iff _ _).1 ((hlists.contains_iff x).2 hin) with ⟨l, hl⟩
        have hcurrent := hlists.current x l hl
        rw [if_pos hin, if_pos ⟨hcurrent ▸ hl, hat.symm.trans hin⟩]
      · rw [if_neg hin, if_neg fun hand => hin (hat.trans hand.2)]

theorem cartOf_without (x : String) :
    (shop.without s).cartOf x = if shop.cartOf x = some s.id then none else shop.cartOf x := by
  unfold cartOf without
  dsimp only
  rw [Keyed.get?_mapValues]
  cases hb : shop.baskets.get? x with
  | none =>
      rw [Option.map_none, Option.bind_none]
      split <;> rfl
  | some b =>
      rw [Option.map_some, Option.bind_some, Option.bind_some]
      by_cases hin : b.store = some s.id
      · rw [if_pos hin, if_pos hin]
      · rw [if_neg hin, if_neg hin]

theorem storeOf_without (h : shop.Placed) (hs : shop.stores.get? s.id = some s) (x : String) :
    (shop.without s).storeOf x = if shop.storeOf x = some s.id then none else shop.storeOf x := by
  have hmap := congrArg (Option.map AisleSpot.store) (spotOf_without h hs x)
  by_cases hx : shop.storeOf x = some s.id
  · rw [if_pos hx] at hmap ⊢
    exact hmap
  · rw [if_neg hx] at hmap ⊢
    exact hmap

/-- The stores that are left have other ids than the one that closed. -/
theorem stores_without {k : String} {t : Store} (ht : (shop.without s).stores.get? k = some t) :
    k ≠ s.id ∧ shop.stores.get? k = some t := by
  unfold without at ht
  dsimp only at ht
  rw [Keyed.get?_erase] at ht
  by_cases hk : k = s.id
  · rw [if_pos hk] at ht
    cases ht
  · rw [if_neg hk] at ht
    exact ⟨hk, ht⟩

/-- Whoever was elsewhere than in the store that closed still is. -/
theorem elsewhere_iff {at₀ : Option String} {k closed : String} (hk : k ≠ closed) :
    at₀ = some k ↔ (if at₀ = some closed then none else at₀) = some k := by
  by_cases hx : at₀ = some closed
  · rw [if_pos hx, hx, Option.some.injEq]
    exact ⟨fun he => absurd he.symm hk, nofun⟩
  · rw [if_neg hx]

/-- A store closes. -/
theorem placed_without (h : shop.Placed) (hs : shop.stores.get? s.id = some s) :
    (shop.without s).Placed := by
  have hspot := spotOf_without h hs
  constructor
  · intro k t ht
    rcases stores_without ht with ⟨hk, ht₀⟩
    refine (h.customers k t ht₀).congr fun x => ?_
    rw [storeOf_without h hs]
    exact elsewhere_iff hk
  · intro k t ht
    rcases stores_without ht with ⟨hk, ht₀⟩
    refine (h.baskets k t ht₀).congr fun x => ?_
    rw [cartOf_without]
    exact elsewhere_iff hk
  · intro x spot hx
    rw [hspot] at hx
    by_cases hin : shop.storeOf x = some s.id
    · rw [if_pos hin] at hx
      cases hx
    · rw [if_neg hin] at hx
      rcases h.standing x spot hx with ⟨t, ht, haisle⟩
      -- Who is somewhere afterwards is in another store, and that one is not touched.
      have hne : spot.store ≠ s.id := fun he =>
        hin ((storeOf_eq_some_iff _ _).2 ⟨spot, hx, he⟩)
      refine ⟨t, ?_, haisle⟩
      unfold without
      dsimp only
      rw [Keyed.get?_erase, if_neg hne]
      exact ht
  · intro x
    rw [cartOf_without, ownerOf_without, h.together]
    -- A basket loses its store exactly if its owner does.
    cases shop.ownerOf x with
    | none =>
        rw [Option.bind_none, Option.bind_none]
        exact if_neg (by simp)
    | some owner =>
        rw [Option.bind_some, Option.bind_some, storeOf_without h hs]

end Without

/-- New counts move nobody. -/
theorem Placed.recount (h : shop.Placed) (n : Inventory → Int) : (shop.recount n).Placed :=
  h.mapStores (fun _ _ => rfl) (fun _ _ => rfl) fun _ _ => rfl

/-- Nor do they together with a basket that has other lines. -/
theorem Placed.recount_putBasket {k : String} {b b' : Basket} (h : shop.Placed)
    (hids : shop.baskets.All fun k b => b.id = k) (n : Inventory → Int)
    (hb : shop.baskets.get? k = some b) (hid : b'.id = b.id) (hc : b'.customer = b.customer)
    (hs : b'.store = b.store) : ((shop.recount n).putBasket b').Placed :=
  (h.recount n).of_eq rfl (fun _ => rfl) (@ownerOf_putBasket (shop.recount n) _ _ _ hids hb hid hc)
    (@cartOf_putBasket (shop.recount n) _ _ _ hids hb hid hs)

/-- Every step keeps people where they are listed. -/
theorem Step.placed {op : Operation} {r : Reply} (h : Step shop op r shop')
    (hsound : shop.Sound) : shop'.Placed := by
  have hpl := hsound.placed
  have hf := hsound.filed.floor
  have hids := hsound.filed.baskets
  cases h with
  | query _ => exact hpl
  | openStore hk => exact placed_opened hpl hk rfl rfl
  | updateStore _ _ hs hs' =>
      subst hs'
      exact hpl.putStore hs (hsound.store_self hs).1 rfl rfl fun _ ha => ha
  | @closeStore _ s hs => exact placed_without hpl (hsound.store_self hs).2
  | openAisle _ _ hs _ _ _ =>
      exact hpl.putStore hs (hsound.store_self hs).1 rfl rfl fun _ ha => Store.HasAisle.insert ha
  | putUpShelf _ _ _ hs _ _ _ _ _ =>
      exact hpl.putStore hs (hsound.store_self hs).1 rfl rfl fun _ ha => Store.HasAisle.insert ha
  | addProduct _ _ _ _ _ _ _ _ _ =>
      exact hpl.of_eq rfl (fun _ => rfl) (fun _ => rfl) fun _ => rfl
  | addInventory _ hs _ _ _ _ _ _ _ _ _ =>
      exact hpl.putStore hs (hsound.store_self hs).1 rfl rfl fun _ ha => ha
  | adjustInventory hi _ _ hi' =>
      subst hi'
      rw [hsound.putInventory_eq_recount ((inventory?_eq_some_iff hf _ _).1 hi).1]
      exact hpl.recount _
  | addCustomer _ hi _ hc =>
      subst hc
      exact hpl.of_eq rfl (fun x => Keyed.bind_insert _ _ _ _ x hi rfl) (fun _ => rfl) fun _ => rfl
  | @moveCustomer _ _ _ _ s a hc hs ha =>
      have haisle : s.HasAisle a.number := by
        have hnumber := ((hf.filed _ s hs).2.aisles _ a ha).1
        rw [hnumber]
        exact ⟨a, ha⟩
      exact placed_afterMove hids (hsound.customer_self hc).2 (hsound.store_self hs).2 hpl
        hsound.paired haisle
  | addBasket hi hb =>
      subst hb
      exact hpl.of_eq rfl (fun _ => rfl) (fun x => Keyed.bind_insert _ _ _ _ x hi rfl)
        fun x => Keyed.bind_insert _ _ _ _ x hi rfl
  | assignBasket hc hb hbc _ _ =>
      exact placed_afterAssign hpl (hsound.customer_self hc).2 (hsound.basket_self hb).2 hbc
  | takeIntoBasket hb _ _ _ hi _ _ _ hi' hb' =>
      subst hi' hb'
      rw [hsound.putInventory_eq_recount (choose_keeps hf hi).1]
      exact hpl.recount_putBasket hids _ hb rfl rfl rfl
  | putBackFromBasket hb _ _ _ _ _ hi _ _ _ hi' hb' =>
      subst hi' hb'
      rw [hsound.putInventory_eq_recount (choose_keeps hf hi).1]
      exact hpl.recount_putBasket hids _ hb rfl rfl rfl
  | emptyBasket hb => exact hpl.recount_putBasket hids _ hb rfl rfl rfl
  | installDevice _ hs _ _ _ _ =>
      exact hpl.putStore hs (hsound.store_self hs).1 rfl rfl fun _ ha => ha
  | raiseEvent _ _ _ => exact hpl.of_eq rfl (fun _ => rfl) (fun _ => rfl) fun _ => rfl
  | issueCommand _ _ _ _ => exact hpl.of_eq rfl (fun _ => rfl) (fun _ => rfl) fun _ => rfl

end Shop

end Shopfloor
