import Mathlib.Algebra.Order.BigOperators.Group.List
import Mathlib.Tactic.ByContra
import Shopfloor.Proofs.Order.Provision
import Shopfloor.Proofs.Picking.Source
/-!
# After Picks

What is known of a shop once picks were taken from another one.

Everything that a pick can change is a sum. An inventory has lost what was
picked from it, and a line of a basket has gained what was picked into it, and
neither tells in which order that happened. So the shop afterwards is described
by the list of picks that were taken, but the description does not depend on its
order: `Taken` is the invariant of every run of picks, and two shops that were
left by the same picks differ at most in the order of the lines in their
baskets.

Where a pick comes from is the same before and after, since counts and lines play
no part in it. That is what makes the sums add up: a pick that is taken later
is added to the inventory it would have come from at the beginning.

## Main definitions

* `Shop.demand`, `Shop.left`: What picks ask of an inventory, and what they leave.
* `Shop.Taken`: What is known of the shop once picks were taken.
* `Shop.SameButLines`: Shops that differ in the order of lines in baskets.

## Theorems

* `Taken.source?_eq`: Where a pick comes from does not change.
* `Taken.pick_cases`: The two outcomes of one more pick.
* `Taken.sameButLines`: The same picks leave the same shop.
-/

namespace Shopfloor

/-- The units of picks that go into a line of a basket. -/
def unitsInto (k p : String) (picks : List Pick) : List Int :=
  (picks.filter fun pick => pick.basket = some k ∧ pick.product = some p).map Pick.quantity

/-- A line of a basket after more units came in. -/
def lineAfter (old : Option Int) (more : List Int) : Option Int :=
  if more = [] then old else some (old.getD 0 + more.sum)

/-- A basket into which the units of picks were put. -/
structure Basket.Filled (k : String) (picks : List Pick) (b b' : Basket) : Prop where
  id : b'.id = b.id
  customer : b'.customer = b.customer
  store : b'.store = b.store
  lines : ∀ p, b'.lines.get? p = lineAfter (b.lines.get? p) (unitsInto k p picks)

theorem lineAfter_append (old : Option Int) (more : List Int) (q : Int) :
    lineAfter old (more ++ [q]) = some ((lineAfter old more).getD 0 + q) := by
  have hne : more ++ [q] ≠ [] := List.append_ne_nil_of_right_ne_nil _ (List.cons_ne_nil _ _)
  unfold lineAfter
  rw [if_neg hne]
  cases more with
  | nil => simp
  | cons m more => simp [Int.add_assoc]

theorem unitsInto_append (k p : String) (picks more : List Pick) :
    unitsInto k p (picks ++ more) = unitsInto k p picks ++ unitsInto k p more := by
  simp [unitsInto]

/-- Lines only depend on what came in, not on when. -/
theorem lineAfter_perm (old : Option Int) {more more' : List Int} (h : more.Perm more') :
    lineAfter old more = lineAfter old more' := by
  unfold lineAfter
  rw [h.sum_eq]
  by_cases hnil : more = []
  · subst hnil
    rw [if_pos rfl, if_pos h.nil_eq.symm]
  · have hnil' : more' ≠ [] := fun he => hnil (he ▸ h).eq_nil
    rw [if_neg hnil, if_neg hnil']

theorem Basket.filled_nil (k : String) (b : Basket) : b.Filled k [] b :=
  ⟨rfl, rfl, rfl, fun _ => rfl⟩

/-- One more pick fills the basket that it goes into, and no other. -/
theorem Basket.Filled.holding {k : String} {picks : List Pick} {b b' : Basket}
    (h : b.Filled k picks b') (pick : Pick) :
    b.Filled k (picks ++ [pick]) (if pick.basket = some k then b'.holding pick else b') := by
  by_cases hk : pick.basket = some k
  · rw [if_pos hk]
    unfold Basket.holding
    cases hp : pick.product with
    | none =>
        refine ⟨h.id, h.customer, h.store, fun p => ?_⟩
        have hmore : unitsInto k p [pick] = [] := by simp [unitsInto, hp]
        rw [unitsInto_append, hmore, List.append_nil]
        exact h.lines p
    | some p₀ =>
        refine ⟨h.id, h.customer, h.store, fun p => ?_⟩
        rw [unitsInto_append, Keyed.get?_insert]
        by_cases hp₀ : p = p₀
        · have hmore : unitsInto k p [pick] = [pick.quantity] := by simp [unitsInto, hk, hp, hp₀]
          rw [if_pos hp₀, hmore, lineAfter_append, ← h.lines, hp₀]
          rfl
        · have hmore : unitsInto k p [pick] = [] := by simp [unitsInto, hp, Ne.symm hp₀]
          rw [if_neg hp₀, hmore, List.append_nil]
          exact h.lines p
  · rw [if_neg hk]
    refine ⟨h.id, h.customer, h.store, fun p => ?_⟩
    have hmore : unitsInto k p [pick] = [] := by simp [unitsInto, hk]
    rw [unitsInto_append, hmore, List.append_nil]
    exact h.lines p

namespace Shop

/-- What picks ask of an inventory: the units of those that come from it. -/
def demand (shop : Shop) (picks : List Pick) (i : Inventory) : Int :=
  ((picks.filter fun pick => shop.source? pick = some i).map Pick.quantity).sum

/-- What picks leave of an inventory. -/
def left (shop : Shop) (picks : List Pick) (i : Inventory) : Int := i.count - shop.demand picks i

/-- What is known of the shop `now` once picks were taken from `shop`. -/
structure Taken (shop : Shop) (picks : List Pick) (now : Shop) : Prop where
  sound : now.Sound
  stores : now.stores = (shop.recount (shop.left picks)).stores
  products : now.products = shop.products
  customers : now.customers = shop.customers
  baskets : ∃ g, now.baskets = shop.baskets.mapValues g ∧
    ∀ k b, shop.baskets.get? k = some b → b.Filled k picks (g k b)
  events : now.events = shop.events

/-- Two shops that differ in the order of the lines in baskets, and in nothing else. -/
structure SameButLines (shop shop' : Shop) : Prop where
  stores : shop.stores = shop'.stores
  products : shop.products = shop'.products
  customers : shop.customers = shop'.customers
  baskets : List.Forall₂ (fun e e' => e.1 = e'.1 ∧ Basket.Alike e.2 e'.2) shop.baskets.entries
    shop'.baskets.entries
  events : shop.events = shop'.events

variable {shop now now' : Shop} {picks picks' : List Pick} {i : Inventory} {pick : Pick}

/-! ## Sums -/

theorem demand_append (picks more : List Pick) (i : Inventory) :
    shop.demand (picks ++ more) i = shop.demand picks i + shop.demand more i := by
  simp [demand]

theorem demand_cons (pick : Pick) (picks : List Pick) (i : Inventory) :
    shop.demand (pick :: picks) i =
      (if shop.source? pick = some i then pick.quantity else 0) + shop.demand picks i := by
  unfold demand
  by_cases h : shop.source? pick = some i
  · simp [h]
  · simp [h]

/-- One more pick leaves less of its source, and as much of everything else. -/
theorem left_append_singleton (picks : List Pick) (pick : Pick) (i : Inventory) :
    shop.left (picks ++ [pick]) i =
      shop.left picks i - if shop.source? pick = some i then pick.quantity else 0 := by
  have hnil : shop.demand [] i = 0 := rfl
  unfold left
  rw [demand_append, demand_cons, hnil, add_zero, sub_sub]

theorem demand_perm (h : picks.Perm picks') (i : Inventory) :
    shop.demand picks i = shop.demand picks' i :=
  ((h.filter _).map _).sum_eq

theorem demand_nonneg (hpos : ∀ pick ∈ picks, 0 < pick.quantity) (i : Inventory) :
    0 ≤ shop.demand picks i := by
  refine List.sum_nonneg fun q hq => ?_
  rcases List.mem_map.1 hq with ⟨pick, hpick, rfl⟩
  exact (hpos pick (List.mem_filter.1 hpick).1).le

/-! ## One more pick -/

theorem taken_nil (hsound : shop.Sound) : shop.Taken [] shop := by
  have hleft : shop.left [] = Inventory.count := funext fun i => Int.sub_zero _
  refine ⟨hsound, ?_, rfl, rfl, ⟨fun _ b => b, ?_, fun k b _ => b.filled_nil k⟩, rfl⟩
  · rw [hleft, recount_count]
  · exact (Keyed.mapValues_eq_self _ _ fun _ _ _ => rfl).symm

/-- An inventory stands where it stood, with what is left of it. -/
theorem Taken.keeps (h : shop.Taken picks now) (hi : shop.Keeps i) :
    now.Keeps (i.counted (shop.left picks)) := by
  rcases hi with ⟨s, hs, hget⟩
  refine ⟨s.counted (shop.left picks), ?_, ?_⟩
  · rw [h.stores, recount_eq]
    change (shop.stores.mapValues _).get? i.spot.store = _
    rw [Keyed.get?_mapValues, hs]
    rfl
  · change (s.inventory.mapValues _).get? i.id = _
    rw [Keyed.get?_mapValues, hget]
    rfl

/-- Nothing is picked that is not there. -/
theorem Taken.left_nonneg (h : shop.Taken picks now) (hi : shop.Keeps i) :
    0 ≤ shop.left picks i :=
  (h.sound.stocked.of_keeps (h.keeps hi)).1

/-- Where a pick comes from is the inventory that it would have come from before. -/
theorem Taken.source?_eq (h : shop.Taken picks now) (pick : Pick) :
    now.source? pick = (shop.source? pick).map (Inventory.counted (shop.left picks)) := by
  rcases h.baskets with ⟨g, hbaskets, hfilled⟩
  unfold source?
  rw [hbaskets]
  cases pick.basket with
  | none => rfl
  | some k =>
      rw [Keyed.find?_some, Keyed.find?_some, Keyed.get?_mapValues]
      cases hb : shop.baskets.get? k with
      | none => rfl
      | some b =>
          -- Neither the owner nor what is in stock has moved; only counts and lines have.
          have hstanding : now.standing (g k b) = shop.standing b := by
            unfold standing
            rw [(hfilled k b hb).customer, h.customers]
          cases pick.product with
          | none => rfl
          | some p =>
              have hstock : now.stockOf p = (shop.recount (shop.left picks)).stockOf p := by
                unfold stockOf
                rw [h.stores]
              simp only [Option.map_some, Option.bind_eq_bind, Option.bind_some, hstanding, hstock,
                stockOf_recount, choose_map_counted]
              cases shop.standing b with
              | none => rfl
              | some spot =>
                  simp only [Option.bind_some]
                  cases choose (shop.stockOf p) (some spot) with
                  | none => rfl
                  | some i =>
                      -- An inventory stands in the same aisle whatever its count is.
                      have hspot : (i.counted (shop.left picks)).spot = i.spot := rfl
                      by_cases hin : i.spot.inAisle = spot
                      · simp [Option.filter, hspot, hin]
                      · simp [Option.filter, hspot, hin]

/-- Where a pick comes from can be told by an id. -/
theorem Taken.source?_id (h : shop.Taken picks now) (hf : Filing shop.stores) (hi : shop.Keeps i) :
    (now.source? pick).map Inventory.id = some i.id ↔ shop.source? pick = some i := by
  rw [h.source?_eq, Option.map_map]
  constructor
  · intro hid
    rcases Option.map_eq_some_iff.1 hid with ⟨j, hj, hij⟩
    rw [hj, (keeps_of_source? hf hj).eq_of_id_eq hf hi hij]
  · intro hsource
    rw [hsource]
    rfl

theorem Taken.source?_some (h : shop.Taken picks now) (hsource : shop.source? pick = some i) :
    now.source? pick = some (i.counted (shop.left picks)) := by
  rw [h.source?_eq, hsource]
  rfl

/-- A pick that is handed over is one more that was taken. -/
theorem Taken.handed (h : shop.Taken picks now) (hf : Filing shop.stores)
    (hsource : shop.source? pick = some i)
    (hsound : (now.handed pick (i.counted (shop.left picks))).Sound) :
    shop.Taken (picks ++ [pick]) (now.handed pick (i.counted (shop.left picks))) := by
  have hi := keeps_of_source? hf hsource
  rcases h.baskets with ⟨g, hbaskets, hfilled⟩
  refine ⟨hsound, ?_, h.products, h.customers, ?_, h.events⟩
  · -- Two recounts in a row are one, and the second touches the source alone.
    have hcounts : ∀ j, shop.Keeps j →
        (if j.counted (shop.left picks) = i.counted (shop.left picks) then
          shop.left picks j - pick.quantity else shop.left picks j) =
        shop.left (picks ++ [pick]) j := by
      intro j hj
      have hsame : j.counted (shop.left picks) = i.counted (shop.left picks) ↔ i = j := by
        constructor
        · intro he
          have hid := congrArg Inventory.id he
          exact hi.eq_of_id_eq hf hj hid.symm
        · rintro rfl
          rfl
      rw [left_append_singleton, hsource]
      by_cases hij : i = j
      · rw [if_pos (hsame.2 hij), if_pos (congrArg some hij)]
      · rw [if_neg fun he => hij (hsame.1 he), if_neg fun he => hij (Option.some.inj he), sub_zero]
    have hhanded : (now.handed pick (i.counted (shop.left picks))).stores =
        now.stores.mapValues fun _ s => s.counted fun j =>
          if j = i.counted (shop.left picks) then j.count - pick.quantity else j.count := rfl
    rw [← recount_congr hf hcounts, hhanded, h.stores, recount_eq, recount_eq]
    dsimp only
    rw [Keyed.mapValues_mapValues]
    refine congrArg (fun f => shop.stores.mapValues f) (funext fun _ => funext fun s => ?_)
    unfold Store.counted
    dsimp only
    rw [Keyed.mapValues_mapValues]
    rfl
  · refine ⟨fun k b => if pick.basket = some k then (g k b).holding pick else g k b, ?_,
      fun k b hb => (hfilled k b hb).holding pick⟩
    have hhanded : (now.handed pick (i.counted (shop.left picks))).baskets =
        now.baskets.mapValues fun k b => if pick.basket = some k then b.holding pick else b := rfl
    rw [hhanded, hbaskets, Keyed.mapValues_mapValues]

/-- One more pick is carried out if it has a source with as much left, and else it is refused. -/
theorem Taken.pick_cases (h : shop.Taken picks now) (hf : Filing shop.stores)
    {token : Option String} (htoken : isToken token = true) (hpos : 0 < pick.quantity) :
    (∃ i reply, shop.source? pick = some i ∧ pick.quantity ≤ shop.left picks i ∧
      ((attempt token pick.operation).runIn now).1 = .ok reply ∧
      shop.Taken (picks ++ [pick]) (run token pick.operation now).2) ∨
    (∀ i, shop.source? pick = some i → shop.left picks i < pick.quantity) ∧
      (∃ e, ((attempt token pick.operation).runIn now).1 = .error e) ∧
      (run token pick.operation now).2 = now := by
  have hsound := h.sound.run token pick.operation
  rw [run_eq_attempt] at hsound ⊢
  -- What is left of the source now is told by the picks so far, so the case is settled before.
  by_cases hthere : ∃ i, shop.source? pick = some i ∧ pick.quantity ≤ shop.left picks i
  · rcases hthere with ⟨i, hsource, hle⟩
    rcases attempt_pick h.sound htoken (h.source?_some hsource) hpos hle with ⟨b, -, hdone⟩
    rw [hdone] at hsound ⊢
    exact .inl ⟨i, _, hsource, hle, rfl, h.handed hf hsource hsound⟩
  · have hshort : ∀ i, shop.source? pick = some i → shop.left picks i < pick.quantity := by
      intro i hi
      by_contra hge
      exact hthere ⟨i, hi, by omega⟩
    have hrefused : ∀ i', now.source? pick = some i' → i'.count < pick.quantity := by
      intro i' hi'
      rw [h.source?_eq] at hi'
      rcases Option.map_eq_some_iff.1 hi' with ⟨i, hi, rfl⟩
      exact hshort i hi
    rcases @attempt_pick_refused now h.sound token pick hrefused with ⟨e, he⟩
    rw [he]
    exact .inr ⟨hshort, ⟨e, rfl⟩, rfl⟩

/-! ## The same picks in another order -/

/-- The same picks leave the same shop, but for the order of the lines in baskets. -/
theorem Taken.sameButLines (h : shop.Taken picks now) (h' : shop.Taken picks' now')
    (hperm : picks.Perm picks') : now.SameButLines now' := by
  -- Everything that either shop is said to be is a sum over its picks.
  have hleft : shop.left picks = shop.left picks' := by
    funext i
    unfold left
    rw [demand_perm hperm]
  rcases h.baskets with ⟨g, hbaskets, hfilled⟩
  rcases h'.baskets with ⟨g', hbaskets', hfilled'⟩
  refine ⟨by rw [h.stores, h'.stores, hleft], h.products.trans h'.products.symm,
    h.customers.trans h'.customers.symm, ?_, h.events.trans h'.events.symm⟩
  rw [hbaskets, hbaskets']
  change List.Forall₂ _ (shop.baskets.entries.map _) (shop.baskets.entries.map _)
  rw [List.forall₂_map_left_iff, List.forall₂_map_right_iff, List.forall₂_same]
  rintro ⟨k, b⟩ he
  have hb := (Keyed.mem_entries_iff _ k b).1 he
  have hone := hfilled k b hb
  have hother := hfilled' k b hb
  refine ⟨rfl, hone.id.trans hother.id.symm, hone.customer.trans hother.customer.symm,
    hone.store.trans hother.store.symm, (Keyed.reordered_iff _ _).2 fun p => rel_of_eq ?_⟩
  rw [hone.lines, hother.lines]
  exact lineAfter_perm _ ((hperm.filter _).map _)

end Shop

end Shopfloor
