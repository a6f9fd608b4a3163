import Shopfloor.Proofs.Act.Movement
/-!
# Who Is Where

What a customer who walks and a customer who takes a basket change, written as
one change of every record.

A walk touches the lists of two stores, the customer, the basket, and the lists
of two stores again, each step reading what the one before it left. All of it
together is simple: a record is changed or it is not, and which of both is the
case can be told from the shop before the walk. `afterMove_eq` and `afterAssign_eq` say
so, and no proof about walking or binding looks at the single steps again.

Nobody who walks changes what a store consists of. `Shop.floor` is the stores
without their lists; it stays as it is, and so does everything that is read off
it, such as where an inventory is kept.

## Main definitions

* `Store.fixtures`, `Shop.floor`: Stores without their lists.
* `Keyed.enroll`, `Keyed.strike`, `Keyed.passed`: What happens to one list.

## Theorems

* `Keyed.adjust_left`: Two changes of a map, one where something leaves and one where it arrives.
* `relist_eq`: The lists of all stores after a customer went from one to another.
* `carryBasket_eq_mapValues`: A basket is carried to a store that is there.
* `afterMove_eq`, `afterAssign_eq`: Walking, and taking a basket, as one change.
* `afterMove_floor`, `afterAssign_floor`: Neither changes what stores consist of.
-/

namespace Shopfloor

/-- A store without its lists: its layout, its stock and its devices. -/
def Store.fixtures (s : Store) : Store := { s with customers := .empty, baskets := .empty }

/-- What stores with the same fixtures have in common. -/
theorem Store.fixtures_eq_iff (s s' : Store) :
    s'.fixtures = s.fixtures ↔
      s'.id = s.id ∧ s'.address = s.address ∧ s'.description = s.description ∧
        s'.aisles = s.aisles ∧ s'.inventory = s.inventory ∧ s'.devices = s.devices := by
  unfold Store.fixtures
  simp

namespace Keyed

/-- Somebody comes onto a list, unless they are on it. -/
def enroll (m : Keyed Listing) (id : String) : Keyed Listing :=
  if m.contains id then m else m.insert id .current

/-- The one who is registered under an id comes off a list. -/
def strike (m : Keyed Listing) (id : String) : Keyed Listing :=
  if m.get? id = some .current then m.erase id else m

/-- The list of one store after somebody went from the store they were in, if any, to another. -/
def passed (m : Keyed Listing) (id here : String) (left : Option String) (store : String) :
    Keyed Listing :=
  if here = store then m.enroll id else if left = some here then m.strike id else m

/-- One value is changed because something leaves it, and then another because it arrives there:
    one change of the map. -/
theorem adjust_left {α : Type} (m : Keyed α) (left : Option String) {k : String}
    (hne : left ≠ some k) (f g : α → α) :
    (left.elim m fun previous => m.adjust previous f).adjust k g =
      m.mapValues fun x v => if x = k then g v else if left = some x then f v else v := by
  cases left with
  | none =>
      unfold adjust
      refine mapValues_congr _ fun x v _ => ?_
      rw [if_neg (nofun : ¬ none = some x)]
  | some previous =>
      rw [Option.elim_some]
      unfold adjust
      rw [mapValues_mapValues]
      refine mapValues_congr _ fun x v _ => ?_
      by_cases hx : x = k
      · -- What arrives does not come from where it arrives.
        have hprevious : ¬ x = previous := fun h => hne (congrArg some (h.symm.trans hx))
        rw [if_pos hx, if_pos hx, if_neg hprevious]
      · rw [if_neg hx, if_neg hx]
        by_cases hp : x = previous
        · rw [if_pos hp, if_pos (congrArg some hp.symm)]
        · rw [if_neg hp, if_neg fun h => hp (Option.some.inj h).symm]

end Keyed

theorem Store.admitCustomer_eq (s : Store) (id : String) :
    s.admitCustomer id = { s with customers := s.customers.enroll id } := by
  unfold Store.admitCustomer Keyed.enroll
  split <;> rfl

theorem Store.dismissCustomer_eq (s : Store) (id : String) :
    s.dismissCustomer id = { s with customers := s.customers.strike id } := by
  unfold Store.dismissCustomer Keyed.strike
  split <;> rfl

theorem Store.admitBasket_eq (s : Store) (id : String) :
    s.admitBasket id = { s with baskets := s.baskets.enroll id } := by
  unfold Store.admitBasket Keyed.enroll
  split <;> rfl

theorem Store.dismissBasket_eq (s : Store) (id : String) :
    s.dismissBasket id = { s with baskets := s.baskets.strike id } := by
  unfold Store.dismissBasket Keyed.strike
  split <;> rfl

/-- The list of customers of a store after somebody came onto it or off it. -/
theorem Store.passed_customers (s : Store) (id here : String) (left : Option String)
    (store : String) :
    (if here = store then s.admitCustomer id
      else if left = some here then s.dismissCustomer id else s) =
      { s with customers := s.customers.passed id here left store } := by
  unfold Keyed.passed
  split
  · exact s.admitCustomer_eq id
  · split
    · exact s.dismissCustomer_eq id
    · rfl

/-- The list of baskets of a store after one came onto it or off it. -/
theorem Store.passed_baskets (s : Store) (id here : String) (left : Option String)
    (store : String) :
    (if here = store then s.admitBasket id
      else if left = some here then s.dismissBasket id else s) =
      { s with baskets := s.baskets.passed id here left store } := by
  unfold Keyed.passed
  split
  · exact s.admitBasket_eq id
  · split
    · exact s.dismissBasket_eq id
    · rfl

namespace Shop

variable {shop : Shop}

/-- The stores without their lists. -/
def floor (shop : Shop) : Keyed Store := shop.stores.mapValues fun _ s => s.fixtures

/-- A customer who went from one store to another came onto the list of the one and off the list of
    the other. -/
theorem relist_eq (stores : Keyed Store) (c : Customer) (store : String) :
    relist stores c store = stores.mapValues fun x s =>
      { s with customers := s.customers.passed c.id x (c.spot.map AisleSpot.store) store } := by
  have hmoved : relist stores c store = stores.mapValues fun x s =>
      if x = store then s.admitCustomer c.id
      else if c.spot.map AisleSpot.store = some x then s.dismissCustomer c.id else s := by
    unfold relist
    cases c.spot with
    | none => exact Keyed.adjust_left stores none nofun _ _
    | some previous =>
        dsimp only
        by_cases hp : previous.store = store
        · -- Within one store nobody is taken off a list.
          rw [if_neg (not_not.2 hp), Option.map_some, hp]
          unfold Keyed.adjust
          refine Keyed.mapValues_congr _ fun x s _ => ?_
          by_cases hx : x = store
          · rw [if_pos hx, if_pos hx]
          · rw [if_neg hx, if_neg hx, if_neg fun h => hx (Option.some.inj h).symm]
        · have hne : some previous.store ≠ some store := fun h => hp (Option.some.inj h)
          rw [if_pos hp]
          exact Keyed.adjust_left stores (some previous.store) hne _ _
  rw [hmoved]
  exact Keyed.mapValues_congr _ fun x s _ => s.passed_customers c.id x _ store

/-- The lists of a store after a basket was carried to one, which may be this one. -/
def listsAfter (s : Store) (here : String) (b : Basket) (store : String) : Keyed Listing :=
  if b.store = some store then s.baskets else s.baskets.passed b.id here b.store store

/-- A basket that went from one store to another came onto the list of the one and off the list of
    the other. -/
theorem unlisted_adjust (stores : Keyed Store) (b : Basket) {store : String}
    (hne : b.store ≠ some store) :
    (unlisted stores b).adjust store (·.admitBasket b.id) =
      stores.mapValues fun x s => { s with baskets := listsAfter s x b store } := by
  have helim : unlisted stores b =
      b.store.elim stores fun previous => stores.adjust previous (·.dismissBasket b.id) := by
    unfold unlisted
    cases b.store with
    | none => rfl
    | some previous => rfl
  rw [helim, Keyed.adjust_left stores b.store hne]
  refine Keyed.mapValues_congr _ fun x s _ => ?_
  unfold listsAfter
  rw [if_neg hne]
  exact s.passed_baskets b.id x b.store store

/-- A basket is carried to a store that is there: it goes from one list to another, and its record
    names the store. -/
theorem carryBasket_eq_mapValues {b b₀ : Basket} {store : String}
    (hs : ∃ s, shop.stores.get? store = some s) (hb : shop.baskets.get? b.id = some b₀)
    (hstore : b₀.store = b.store) :
    shop.carryBasket b store =
      { shop with
        stores := shop.stores.mapValues fun x s => { s with baskets := listsAfter s x b store }
        baskets := shop.baskets.adjust b.id fun b => { b with store := some store } } := by
  rw [carryBasket_eq, if_pos ((Keyed.contains_iff _ _).2 hs)]
  by_cases hthere : b.store = some store
  · -- The basket is there already: both changes write what stands there.
    have hstores : (shop.stores.mapValues fun x s =>
        { s with baskets := listsAfter s x b store }) = shop.stores := by
      refine Keyed.mapValues_eq_self _ _ fun x s _ => ?_
      unfold listsAfter
      rw [if_pos hthere]
    have hbaskets : (shop.baskets.adjust b.id fun b => { b with store := some store })
        = shop.baskets := by
      refine Keyed.mapValues_eq_self _ _ fun x b' hx => ?_
      by_cases he : x = b.id
      · rw [if_pos he]
        rw [he, hb, Option.some.injEq] at hx
        rw [← hx, ← hthere, ← hstore]
      · rw [if_neg he]
    rw [if_pos hthere, hstores, hbaskets]
  · rw [if_neg hthere, unlisted_adjust _ _ hthere]

/-- A customer walks: their record, the lists of customers, and, if they hold a basket, its record
    and the lists of baskets. -/
theorem afterMove_eq {c : Customer} {spot : AisleSpot} {s : Store}
    (hids : shop.baskets.All fun k b => b.id = k) (hs : shop.stores.get? spot.store = some s) :
    shop.afterMove c spot =
      { shop with
        stores := shop.stores.mapValues fun x s =>
          { s with
            customers := s.customers.passed c.id x (c.spot.map AisleSpot.store) spot.store
            baskets := (shop.baskets.find? c.basket).elim s.baskets fun b =>
              listsAfter s x b spot.store }
        customers := shop.customers.adjust c.id fun _ => c.moveTo spot
        baskets := shop.baskets.mapValues fun x b =>
          if c.basket = some x then { b with store := some spot.store } else b } := by
  unfold afterMove heldBasket
  dsimp only
  rw [relist_eq]
  have hheld : (c.moveTo spot).basket = c.basket := rfl
  rw [hheld]
  cases hfind : shop.baskets.find? c.basket with
  | none =>
      -- No basket is held that is registered, so every basket stays as it is.
      have hbaskets : (shop.baskets.mapValues fun x b =>
          if c.basket = some x then { b with store := some spot.store } else b) = shop.baskets := by
        refine Keyed.mapValues_eq_self _ _ fun x b hx => if_neg fun hcx => ?_
        rw [hcx, Keyed.find?_some, hx] at hfind
        cases hfind
      rw [hbaskets]
      rfl
  | some b =>
      rcases (Keyed.find?_eq_some_iff _ _ _).1 hfind with ⟨k, hck, hb⟩
      have hid := hids k b hb
      subst hid
      dsimp only
      -- The customer has moved and the basket has not: this is where it is carried from.
      refine Eq.trans (carryBasket_eq_mapValues ?_ hb rfl) ?_
      · rw [Keyed.get?_mapValues, hs]
        exact ⟨_, rfl⟩
      rw [Keyed.mapValues_mapValues]
      have hbaskets : (shop.baskets.adjust b.id fun b => { b with store := some spot.store }) =
          shop.baskets.mapValues fun x b =>
            if c.basket = some x then { b with store := some spot.store } else b := by
        refine Keyed.mapValues_congr _ fun x b' _ => ?_
        rw [hck]
        by_cases hx : x = b.id
        · rw [if_pos hx, if_pos (congrArg some hx.symm)]
        · rw [if_neg hx, if_neg fun h => hx (Option.some.inj h).symm]
      rw [hbaskets]
      rfl

/-- A customer takes a basket: both records, and the lists of baskets if the customer is
    somewhere. -/
theorem afterAssign_eq {c : Customer} {b : Basket} (hb : shop.baskets.get? b.id = some b)
    (hspot : ∀ spot, c.spot = some spot → ∃ s, shop.stores.get? spot.store = some s) :
    shop.afterAssign c b =
      { shop with
        stores := shop.stores.mapValues fun x s =>
          { s with baskets := c.spot.elim s.baskets fun spot => listsAfter s x b spot.store }
        customers := shop.customers.adjust c.id fun c => { c with basket := some b.id }
        baskets := shop.baskets.adjust b.id fun b =>
          { b with customer := some c.id, store := (c.spot.map AisleSpot.store).or b.store } } := by
  unfold afterAssign
  cases hc : c.spot with
  | none =>
      have hstores : (shop.stores.mapValues fun x s =>
          { s with baskets := (none : Option AisleSpot).elim s.baskets fun spot =>
            listsAfter s x b spot.store }) = shop.stores :=
        Keyed.mapValues_eq_self _ _ fun x s _ => rfl
      rw [hstores]
      rfl
  | some spot =>
      have hb' : (shop.baskets.adjust b.id fun b => { b with customer := some c.id }).get? b.id =
          some { b with customer := some c.id } := by
        rw [Keyed.get?_adjust, if_pos rfl, hb]
        rfl
      -- The records are bound and the lists are not: this is where it is carried from.
      refine Eq.trans (carryBasket_eq_mapValues (hspot spot hc) hb' rfl) ?_
      -- Binding and carrying write the same record of a basket.
      have hbaskets : ((shop.baskets.adjust b.id fun b => { b with customer := some c.id }).adjust
          b.id fun b => { b with store := some spot.store }) =
          shop.baskets.adjust b.id fun b =>
            { b with customer := some c.id, store := some spot.store } := by
        unfold Keyed.adjust
        rw [Keyed.mapValues_mapValues]
        refine Keyed.mapValues_congr _ fun x b' _ => ?_
        by_cases hx : x = b.id
        · rw [if_pos hx, if_pos hx, if_pos hx]
        · rw [if_neg hx, if_neg hx, if_neg hx]
      rw [hbaskets]
      rfl

/-- Stores that differ in their lists alone have the same fixtures. -/
theorem mapValues_fixtures {stores : Keyed Store} {f : String → Store → Store}
    (h : ∀ k s, (f k s).fixtures = s.fixtures) :
    ((stores.mapValues f).mapValues fun _ s => s.fixtures) =
      stores.mapValues fun _ s => s.fixtures := by
  rw [Keyed.mapValues_mapValues]
  exact Keyed.mapValues_congr _ fun k s _ => h k s

theorem afterMove_floor {c : Customer} {spot : AisleSpot} {s : Store}
    (hids : shop.baskets.All fun k b => b.id = k) (hs : shop.stores.get? spot.store = some s) :
    (shop.afterMove c spot).floor = shop.floor := by
  rw [afterMove_eq hids hs]
  exact mapValues_fixtures fun k s => rfl

theorem afterAssign_floor {c : Customer} {b : Basket} (hb : shop.baskets.get? b.id = some b)
    (hspot : ∀ spot, c.spot = some spot → ∃ s, shop.stores.get? spot.store = some s) :
    (shop.afterAssign c b).floor = shop.floor := by
  rw [afterAssign_eq hb hspot]
  exact mapValues_fixtures fun k s => rfl

end Shop

end Shopfloor
