import Shopfloor.Proofs.Act.Refusal
import Shopfloor.Proofs.Keyed.Order
import Shopfloor.Proofs.Picking.Source
/-!
# What It Takes to Pick

When a request to take units of a product into a basket succeeds, said of the
records alone.

The shop settles first which inventory the units would come from, and asks
afterwards whether the owner of the basket stands beside it. Where no inventory
of the product is in that aisle, it settles on one that is elsewhere, only to
refuse. Nothing of this shows in the conditions: the units come from the
inventory with the least id among those of the product in the aisle of the
owner, which `Shop.Serves` says without sorting and without searching, and the
request is refused if there is none.

The conditions stand in an order. A request that fails is refused for the first
one that is not met, whatever else is wrong with it; `FirstUnmet` picks it out of
a list of conditions, each of which comes with the kind of the failure and with the
numbers that the words for it name. An owner whose id is the empty text counts as no
owner at all, so it is asked of the shop that no customer has that id.

Quantities have no bound, and numbers that are too long cannot be written. A refusal
that would name one is no failure but the fault of the number. So is the answer to a
pick of so many units, although they have changed places by then.

## Main definitions

* `Condition`, `FirstUnmet`: What a request has to meet, and the first of it that is not met.
* `Condition.RefusedBy`: A cause is the one that a condition is refused for.
* `Shop.OwnerIn`: The owner of a basket stands in an aisle.
* `Shop.Offers`, `Shop.Serves`: An inventory of a product in an aisle, and the first of them.
* `Shop.Pickable`: Everything is met that it takes to pick.
* `Shop.pickConditions`: What it takes, in order.

## Theorems

* `serves_of_choose`, `choose_of_offers`: What is chosen in an aisle is the first there.
* `handover_standing_eq_ok_iff`, `handover_unmet`: When units change hands, and why they do not.
* `handover_firstUnmet`, `ServedBy.firstUnmet`: Which of the conditions for that is not met.
* `taking_unmet`: A pick is refused for the first condition that it does not meet.
* `pick_exactly`: When a pick succeeds, what it does, and how it fails.
* `pick_unsayable`: It can fail in a way that is no failure.
-/

namespace Shopfloor

/-- Something that a request has to meet, and the failure if it does not: its kind, and the numbers
    that the words for it name. -/
structure Condition where
  met : Prop
  kind : Kind
  names : Int → Prop

/-- A condition whose failure names no number. -/
def Condition.silent (met : Prop) (kind : Kind) : Condition := ⟨met, kind, fun _ => False⟩

/-- Of conditions in order, the first that is not met. -/
inductive FirstUnmet : List Condition → Condition → Prop
  | here {c : Condition} {rest : List Condition} (h : ¬ c.met) : FirstUnmet (c :: rest) c
  | later {c c' : Condition} {rest : List Condition} (h : c'.met) (hrest : FirstUnmet rest c) :
    FirstUnmet (c' :: rest) c

/-- A cause is of the kind of a condition, and its words name the numbers of it. -/
structure Condition.RefusedBy (c : Condition) (cause : Cause) : Prop where
  kind : cause.kind = c.kind
  names : ∀ n, n ∈ cause.numbers ↔ c.names n

theorem Condition.refusedBy_silent {met : Prop} {kind : Kind} {cause : Cause}
    (hkind : cause.kind = kind) (hsilent : cause.numbers = []) :
    (silent met kind).RefusedBy cause :=
  ⟨hkind, fun _ => iff_of_false (hsilent ▸ List.not_mem_nil) id⟩

/-- A line that there was grows where it stands, and a new line goes last. -/
theorem Basket.holding_lines (b : Basket) (k : Option String) (p : String) (q : Int) :
    (∀ n, b.lines.get? p = some n →
      (b.holding ⟨k, some p, q⟩).lines = b.lines.adjust p fun _ => n + q) ∧
    (b.lines.get? p = none →
      (b.holding ⟨k, some p, q⟩).lines.entries = b.lines.entries ++ [(p, q)]) := by
  have hlines : (b.holding ⟨k, some p, q⟩).lines = b.lines.insert p (b.quantity p + q) := rfl
  rw [hlines]
  unfold quantity
  constructor
  · intro n hn
    rw [hn, Option.getD_some]
    exact Keyed.insert_eq_adjust _ hn _
  · intro hnew
    rw [hnew, Option.getD_none, zero_add]
    exact Keyed.entries_insert _ hnew q

namespace Shop

/-- The owner of a basket stands in an aisle. -/
def OwnerIn (shop : Shop) (b : Basket) (spot : AisleSpot) : Prop :=
  ∃ c r, b.customer = some c ∧ shop.customers.get? c = some r ∧ r.spot = some spot

/-- An inventory of a product stands in an aisle. -/
structure Offers (shop : Shop) (p : String) (spot : AisleSpot) (i : Inventory) : Prop where
  keeps : shop.Keeps i
  product : i.product = p
  here : i.spot.inAisle = spot

/-- Of the inventories of a product in an aisle, the one with the least id. -/
structure Serves (shop : Shop) (p : String) (spot : AisleSpot) (i : Inventory) : Prop where
  offers : shop.Offers p spot i
  least : ∀ j, shop.Offers p spot j → i.id ≤ j.id

/-- Everything is met that it takes to pick units of a product. Where the owner of the basket stands
    there is an inventory of the product, the first of which has as many. -/
structure Pickable (shop : Shop) (k p : String) (q : Int) (b : Basket) (i : Inventory) : Prop where
  basket : shop.baskets.get? k = some b
  positive : 1 ≤ q
  beside : ∃ spot, shop.OwnerIn b spot ∧ shop.Serves p spot i
  enough : q ≤ i.count

/-- The inventory that a basket is served from has a product: the first where its owner stands. -/
def ServedBy (shop : Shop) (k p : String) (i : Inventory) : Prop :=
  ∃ b spot, shop.baskets.get? k = some b ∧ shop.OwnerIn b spot ∧ shop.Serves p spot i

/-- What a request to take units of a product into a basket has to meet, in order. -/
def pickConditions (shop : Shop) (k p : String) (q : Int) : List Condition :=
  [.silent (∃ b, shop.baskets.get? k = some b) .notFound,
    ⟨1 ≤ q, .invalidArgument, fun n => n = q⟩,
    .silent (∃ i, shop.Keeps i ∧ i.product = p) .notFound,
    .silent (∃ b spot i, shop.baskets.get? k = some b ∧ shop.OwnerIn b spot ∧ shop.Offers p spot i)
      .preconditionFailed,
    ⟨∃ i, shop.ServedBy k p i ∧ q ≤ i.count, .invalidArgument,
      fun n => n = q ∨ ∃ i, shop.ServedBy k p i ∧ n = i.count⟩]

variable {shop : Shop} {p : String} {spot : AisleSpot} {i : Inventory}

/-! ## Where units come from -/

/-- No customer has the empty id if none is found under it. -/
theorem named_of_get?_eq_none (h : shop.customers.get? "" = none) (c : String) (r : Customer)
    (hr : shop.customers.get? c = some r) : c ≠ "" := by
  rintro rfl
  rw [h] at hr
  cases hr

/-- Where no customer has the empty id, the owner of a basket stands where the record says. -/
theorem standing_eq_some_iff (hnamed : ∀ c r, shop.customers.get? c = some r → c ≠ "")
    (b : Basket) (spot : AisleSpot) : shop.standing b = some spot ↔ shop.OwnerIn b spot := by
  unfold standing OwnerIn
  split
  · rename_i hnone
    simp [hnone]
  · rename_i hempty
    constructor
    · intro h
      cases h
    · rintro ⟨c, r, hc, hr, -⟩
      rw [hempty, Option.some.injEq] at hc
      exact absurd hc.symm (hnamed c r hr)
  · rename_i c _ hc
    rw [Option.bind_eq_some_iff]
    constructor
    · rintro ⟨r, hr, hspot⟩
      exact ⟨c, r, hc, hr, hspot⟩
    · rintro ⟨c', r, hc', hr, hspot⟩
      rw [hc, Option.some.injEq] at hc'
      exact ⟨r, hc' ▸ hr, hspot⟩

theorem mem_stockOf_of_offers (hf : Filing shop.stores) (h : shop.Offers p spot i) :
    i ∈ shop.stockOf p := (mem_stockOf_iff hf p i).2 ⟨h.keeps, h.product⟩

/-- An inventory is the first of a product in its aisle if it is the only one there. -/
theorem exists_serves_of_alone (hf : Filing shop.stores) {k : String} {count capacity : Int}
    (hlooks : (shop.inventory? (some k)).map
      (fun i => (i.product, i.spot.inAisle, i.count, i.capacity)) = some (p, spot, count, capacity))
    (halone : ∀ j ∈ (shop.stores.values.flatMap fun s => s.inventory.values).filter
      (fun i => i.product == p), j.spot.inAisle = spot → j.id = k) :
    ∃ i, shop.inventory? (some k) = some i ∧ shop.Serves p spot i ∧ i.count = count ∧
      i.capacity = capacity := by
  rcases Option.map_eq_some_iff.1 hlooks with ⟨i, hi, hfields⟩
  simp only [Prod.mk.injEq] at hfields
  rcases hfields with ⟨hproduct, hin, hcount, hcapacity⟩
  rcases (inventory?_eq_some_iff hf k i).1 hi with ⟨hkeeps, hid⟩
  refine ⟨i, hi, ⟨⟨hkeeps, hproduct, hin⟩, fun j hj => ?_⟩, hcount, hcapacity⟩
  have hmem := List.mem_mergeSort.1 (mem_stockOf_of_offers hf hj)
  have hsame : i.id = j.id := hid.trans (halone j hmem hj.here).symm
  exact hsame ▸ String.le_refl i.id

/-- What is chosen in an aisle is the first of the inventories there. -/
theorem serves_of_choose (hf : Filing shop.stores)
    (h : choose (shop.stockOf p) (some spot) = some i) (hin : i.spot.inAisle = spot) :
    shop.Serves p spot i := by
  rcases choose_keeps hf h with ⟨hkeeps, hproduct⟩
  refine ⟨⟨hkeeps, hproduct, hin⟩, fun j hj => ?_⟩
  have hmem := mem_stockOf_of_offers hf hj
  have hsorted : (shop.stockOf p).Pairwise fun a b => a.id ≤ b.id :=
    pairwise_mergeSort_key Inventory.id _
  unfold choose at h
  rw [Option.bind_some] at h
  split at h
  · rename_i first hfirst
    rw [Option.some.injEq] at h
    subst h
    rcases List.find?_eq_some_iff_append.1 hfirst with ⟨-, before, after, hstock, hbefore⟩
    rw [hstock, List.mem_append, List.mem_cons] at hmem
    -- Whatever stands before the one that was found is in another aisle.
    rcases hmem with hmem | rfl | hmem
    · have hother := hbefore j hmem
      simp [hj.here] at hother
    · exact String.le_refl _
    · rw [hstock, List.pairwise_append] at hsorted
      exact (List.pairwise_cons.1 hsorted.2.1).1 j hmem
  · rename_i hnone
    have hother := List.find?_eq_none.1 hnone j hmem
    simp [hj.here] at hother

/-- The first inventory of a product in an aisle is one only. -/
theorem Serves.unique (hf : Filing shop.stores) {j : Inventory} (hi : shop.Serves p spot i)
    (hj : shop.Serves p spot j) : i = j :=
  hi.offers.keeps.eq_of_id_eq hf hj.offers.keeps
    (String.le_antisymm (hi.least j hj.offers) (hj.least i hi.offers))

/-- A basket is served with a product from one inventory only. -/
theorem ServedBy.unique (hf : Filing shop.stores) {k : String} {j : Inventory}
    (hi : shop.ServedBy k p i) (hj : shop.ServedBy k p j) : i = j := by
  rcases hi with ⟨b, spot, hb, ⟨c, r, hc, hr, hspot⟩, hi⟩
  rcases hj with ⟨b', spot', hb', ⟨c', r', hc', hr', hspot'⟩, hj⟩
  rw [hb, Option.some.injEq] at hb'
  subst hb'
  rw [hc, Option.some.injEq] at hc'
  subst hc'
  rw [hr, Option.some.injEq] at hr'
  subst hr'
  rw [hspot, Option.some.injEq] at hspot'
  subst hspot'
  exact hi.unique hf hj

/-- Where an aisle has inventories of a product, one of them is chosen. -/
theorem choose_of_offers (hf : Filing shop.stores) (h : shop.Offers p spot i) :
    ∃ j, choose (shop.stockOf p) (some spot) = some j ∧ j.spot.inAisle = spot := by
  have hmem := mem_stockOf_of_offers hf h
  unfold choose
  rw [Option.bind_some]
  cases hfind : (shop.stockOf p).find? fun i => i.spot.inAisle == spot with
  | none =>
      have hother := List.find?_eq_none.1 hfind i hmem
      simp [h.here] at hother
  | some j =>
      have hin := List.find?_some hfind
      exact ⟨j, rfl, by simpa using hin⟩

/-- The first inventory of a product in an aisle is the one that is chosen. -/
theorem choose_of_serves (hf : Filing shop.stores) (h : shop.Serves p spot i) :
    choose (shop.stockOf p) (some spot) = some i := by
  rcases choose_of_offers hf h.offers with ⟨j, hj, hin⟩
  rw [hj, (serves_of_choose hf hj hin).unique hf h]

/-- Nothing is chosen only where there is no inventory of the product at all. -/
theorem not_keeps_of_choose_eq_none (hf : Filing shop.stores) {standing : Option AisleSpot}
    (h : choose (shop.stockOf p) standing = none) : ¬ ∃ i, shop.Keeps i ∧ i.product = p := by
  rintro ⟨i, hi⟩
  have hmem := (mem_stockOf_iff hf p i).2 hi
  unfold choose at h
  split at h
  · cases h
  · rw [List.head?_eq_none_iff] at h
    rw [h] at hmem
    cases hmem

/-! ## How a pick is refused -/

section Unmet

open Act

variable (action : String)

/-- Units change hands at the first inventory of the product in the aisle of the owner. -/
theorem handover_standing_eq_ok_iff (hf : Filing shop.stores) (b : Basket) (p : String)
    (i : Inventory) :
    shop.handover action b p (shop.standing b) = .ok i ↔
      ∃ spot, shop.standing b = some spot ∧ shop.Serves p spot i := by
  rw [handover_eq_ok_iff]
  constructor
  · rintro ⟨owner, spot, -, hspot, hi, hin⟩
    exact ⟨spot, hspot, serves_of_choose hf hi hin⟩
  · rintro ⟨spot, hspot, hserves⟩
    rcases exists_owner_of_standing hspot with ⟨owner, howner⟩
    exact ⟨owner, spot, howner, hspot, choose_of_serves hf hserves, hserves.offers.here⟩

/-- Units do not change hands if no store has an inventory of the product, or else if the owner does
    not stand beside one: if the basket has no owner, if they are nowhere, or if there is none where
    they are. No number is named for it. -/
theorem handover_unmet (hf : Filing shop.stores) {b : Basket} {e : Fault}
    (h : shop.handover action b p (shop.standing b) = .error e) :
    ∃ cause : Cause, e = cause.fault action ∧ cause.numbers = [] ∧
      (cause.kind = .notFound ∧ (¬ ∃ i, shop.Keeps i ∧ i.product = p) ∨
        cause.kind = .preconditionFailed ∧ (∃ i, shop.Keeps i ∧ i.product = p) ∧
          ¬ ∃ spot i, shop.standing b = some spot ∧ shop.Offers p spot i) := by
  -- Had there been an inventory where the owner stands, one would have been chosen.
  have hapart : ¬ ∃ spot i, shop.standing b = some spot ∧ shop.Offers p spot i := by
    rintro ⟨spot, i, hspot, hi⟩
    rcases choose_of_offers hf hi with ⟨j, hj, hin⟩
    have hok := (handover_standing_eq_ok_iff action hf b p j).2
      ⟨spot, hspot, serves_of_choose hf hj hin⟩
    rw [h] at hok
    cases hok
  unfold handover at h
  cases hi : choose (shop.stockOf p) (shop.standing b) with
  | none =>
      rw [hi] at h
      cases h
      exact ⟨.noStock (some p), rfl, rfl, .inl ⟨rfl, not_keeps_of_choose_eq_none hf hi⟩⟩
  | some i =>
      have hstock : ∃ i, shop.Keeps i ∧ i.product = p := ⟨i, choose_keeps hf hi⟩
      rw [hi] at h
      cases hc : b.customer with
      | none =>
          rw [hc] at h
          cases h
          exact ⟨.unassigned b.id, rfl, rfl, .inr ⟨rfl, hstock, hapart⟩⟩
      | some owner =>
          rw [hc] at h
          cases hs : shop.standing b with
          | none =>
              rw [hs] at h
              cases h
              exact ⟨.notInStore owner, rfl, rfl, .inr ⟨rfl, hstock, hs ▸ hapart⟩⟩
          | some spot =>
              rw [hs] at h
              dsimp only at h
              split at h
              · cases h
              · cases h
                exact ⟨.apart spot.text i.id i.spot.inAisle.text, rfl, rfl,
                  .inr ⟨rfl, hstock, hs ▸ hapart⟩⟩

/-- What is handed over is what the basket is served from. -/
theorem servedBy_of_handover (hf : Filing shop.stores)
    (hnamed : ∀ c r, shop.customers.get? c = some r → c ≠ "") {k : String} {b : Basket}
    (hb : shop.baskets.get? k = some b)
    (h : shop.handover action b p (shop.standing b) = .ok i) : shop.ServedBy k p i := by
  rcases (handover_standing_eq_ok_iff action hf b p i).1 h with ⟨spot, hspot, hserves⟩
  exact ⟨b, spot, hb, (standing_eq_some_iff hnamed b spot).1 hspot, hserves⟩

/-- No inventory of a product is beside the owner of a basket if none is where they stand. -/
theorem not_beside_of_apart (hnamed : ∀ c r, shop.customers.get? c = some r → c ≠ "") {k : String}
    {b : Basket} (hb : shop.baskets.get? k = some b)
    (h : ¬ ∃ spot i, shop.standing b = some spot ∧ shop.Offers p spot i) :
    ¬ ∃ b spot i, shop.baskets.get? k = some b ∧ shop.OwnerIn b spot ∧ shop.Offers p spot i := by
  rintro ⟨b', spot, i, hb', howner, hi⟩
  rw [hb, Option.some.injEq] at hb'
  subst hb'
  exact h ⟨spot, i, (standing_eq_some_iff hnamed b spot).2 howner, hi⟩

/-- Where units do not change hands, there is no stock or none beside the owner, and nothing that is
    asked afterwards matters. -/
theorem handover_firstUnmet (hf : Filing shop.stores)
    (hnamed : ∀ c r, shop.customers.get? c = some r → c ≠ "") {k : String} {b : Basket} {e : Fault}
    (hb : shop.baskets.get? k = some b)
    (h : shop.handover action b p (shop.standing b) = .error e) (rest : List Condition) :
    ∃ c, ∃ cause : Cause,
      FirstUnmet (.silent (∃ i, shop.Keeps i ∧ i.product = p) .notFound ::
        .silent (∃ b spot i, shop.baskets.get? k = some b ∧ shop.OwnerIn b spot ∧
          shop.Offers p spot i) .preconditionFailed :: rest) c ∧
      c.RefusedBy cause ∧ e = cause.fault action := by
  rcases handover_unmet action hf h with
    ⟨cause, rfl, hsilent, ⟨hkind, hnone⟩ | ⟨hkind, hstock, hapart⟩⟩
  · exact ⟨_, cause, .here hnone, Condition.refusedBy_silent hkind hsilent, rfl⟩
  · exact ⟨_, cause, .later hstock (.here (not_beside_of_apart hnamed hb hapart)),
      Condition.refusedBy_silent hkind hsilent, rfl⟩

/-- Where a basket is served there is stock beside the owner, so it is for what is asked afterwards
    that a request fails. -/
theorem ServedBy.firstUnmet {k : String} (h : shop.ServedBy k p i) {rest : List Condition}
    {c : Condition} (hc : FirstUnmet rest c) :
    FirstUnmet (.silent (∃ i, shop.Keeps i ∧ i.product = p) .notFound ::
      .silent (∃ b spot i, shop.baskets.get? k = some b ∧ shop.OwnerIn b spot ∧
        shop.Offers p spot i) .preconditionFailed :: rest) c := by
  rcases h with ⟨b, spot, hb, howner, hserves⟩
  exact .later ⟨i, hserves.offers.keeps, hserves.offers.product⟩
    (.later ⟨b, spot, i, hb, howner, hserves.offers⟩ hc)

/-- A basket is served from an inventory of the shop. -/
theorem ServedBy.keeps {k : String} (h : shop.ServedBy k p i) : shop.Keeps i := by
  rcases h with ⟨b, spot, hb, howner, hserves⟩
  exact hserves.offers.keeps

/-- What is said of a shelf that has too few names the quantity and the count, and there is one count
    that it could be. -/
theorem mem_notEnough_numbers_iff (hf : Filing shop.stores) {k : String}
    (hserved : shop.ServedBy k p i) (q n : Int) :
    n ∈ (Cause.notEnough p q i.count).numbers ↔
      n = q ∨ ∃ j, shop.ServedBy k p j ∧ n = j.count := by
  have hcount : n = i.count ↔ ∃ j, shop.ServedBy k p j ∧ n = j.count :=
    ⟨fun hn => ⟨i, hserved, hn⟩, fun ⟨j, hj, hn⟩ => hserved.unique hf hj ▸ hn⟩
  exact (List.mem_cons.trans (or_congr_right List.mem_singleton)).trans (or_congr_right hcount)

/-- Units are not taken for the first condition that is not met. -/
theorem taking_unmet (hsound : shop.Sound)
    (hnamed : ∀ c r, shop.customers.get? c = some r → c ≠ "") {k : String} {b : Basket} {q : Int}
    {e : Fault} (hb : shop.baskets.get? k = some b)
    (h : shop.taking action b p q (shop.standing b) = .error e) :
    ∃ c, ∃ cause : Cause, FirstUnmet (shop.pickConditions k p q) c ∧ c.RefusedBy cause ∧
      e = cause.fault action := by
  have hf := hsound.filed.floor
  have hfound : ∃ b, shop.baskets.get? k = some b := ⟨b, hb⟩
  unfold taking at h
  by_cases hpos : q ≤ 0
  · rw [if_pos hpos] at h
    refine ⟨_, .quantityNotPositive (some q), .later hfound (.here (by dsimp only; omega)),
      ⟨rfl, fun n => List.mem_singleton⟩, ?_⟩
    exact (Except.error.inj h).symm
  rw [if_neg hpos] at h
  have hq : 1 ≤ q := by omega
  cases hi : shop.handover action b p (shop.standing b) with
  | error e' =>
      rw [hi] at h
      cases h
      rcases handover_firstUnmet action hf hnamed hb hi _ with ⟨c, cause, hunmet, hcause, he⟩
      exact ⟨c, cause, .later hfound (.later hq hunmet), hcause, he⟩
  | ok i =>
      rw [hi] at h
      dsimp only at h
      have hserved := servedBy_of_handover action hf hnamed hb hi
      by_cases hfew : i.count < q
      · rw [if_pos hfew] at h
        refine ⟨_, .notEnough p q i.count, .later hfound (.later hq (hserved.firstUnmet (.here ?_))),
          ⟨rfl, fun n => ?_⟩, (Except.error.inj h).symm⟩
        · rintro ⟨j, hj, hle⟩
          rw [← hserved.unique hf hj] at hle
          omega
        · exact mem_notEnough_numbers_iff hf hserved q n
      · -- The units are there, and a shelf that is not too full now is not too full without them.
        have hrange := hsound.stocked.of_keeps hserved.keeps
        have hchange : i.change (-q) action = .ok { i with count := i.count + -q } :=
          (Inventory.change_eq_ok_iff _ _ _ _).2 ⟨by omega, by omega, rfl⟩
        rw [if_neg hfew, hchange] at h
        cases h

/-- A pick that is not carried out is refused for the first condition that it does not meet. -/
theorem run_pick_unmet (hsound : shop.Sound)
    (hnamed : ∀ c r, shop.customers.get? c = some r → c ≠ "") {token : Option String}
    (htoken : isToken token = true) (k p : String) (q : Int)
    (hrefused : ∀ b i, shop.baskets.get? k = some b →
      shop.taking "Add Basket Product" b p q (shop.standing b) ≠ .ok i) :
    ∃ c, ∃ cause : Cause, FirstUnmet (shop.pickConditions k p q) c ∧ c.RefusedBy cause ∧
      run token (Pick.operation ⟨some k, some p, q⟩) shop =
        (.error (cause.fault "Add Basket Product"), shop) := by
  unfold Pick.operation
  dsimp only
  cases hb : shop.baskets.get? k with
  | none =>
      have hnone : shop.baskets.find? (some k) = none := hb
      refine ⟨_, .absent .basket k, .here ?_, Condition.refusedBy_silent rfl rfl, ?_⟩
      · rintro ⟨b, hb'⟩
        rw [hb] at hb'
        cases hb'
      · refine run_of_error htoken ?_
        change (Reply.basket <$> takeIntoBasket "Add Basket Product" _ _ _).runIn shop = _
        unfold takeIntoBasket
        rw [runIn_map, runIn_bind_theBasket_none _ hnone]
        rfl
  | some b =>
      cases htaking : shop.taking "Add Basket Product" b p q (shop.standing b) with
      | ok i => exact absurd htaking (hrefused b i hb)
      | error e =>
          rcases taking_unmet _ hsound hnamed hb htaking with ⟨c, cause, hunmet, hcause, rfl⟩
          refine ⟨c, cause, hunmet, hcause, ?_⟩
          rw [run_taking htoken hb, htaking]

end Unmet

/-! ## All together -/

/-- Units are taken exactly if the conditions are met. -/
theorem exists_taking_iff (hsound : shop.Sound)
    (hnamed : ∀ c r, shop.customers.get? c = some r → c ≠ "") (k p : String) (q : Int) :
    (∃ b i, shop.baskets.get? k = some b ∧
      shop.taking "Add Basket Product" b p q (shop.standing b) = .ok i) ↔
      ∃ b i, shop.Pickable k p q b i := by
  have hf := hsound.filed.floor
  constructor
  · rintro ⟨b, i', hb, htaking⟩
    rcases (taking_eq_ok_iff _ _ _ _ _ _).1 htaking with ⟨i, hpos, hi, hle, -, -⟩
    rcases (handover_standing_eq_ok_iff _ hf b p i).1 hi with ⟨spot, hspot, hserves⟩
    exact ⟨b, i, hb, by omega, ⟨spot, (standing_eq_some_iff hnamed b spot).1 hspot, hserves⟩, hle⟩
  · rintro ⟨b, i, hpick⟩
    rcases hpick.beside with ⟨spot, howner, hserves⟩
    have hpos := hpick.positive
    have henough := hpick.enough
    have hrange := hsound.stocked.of_keeps hserves.offers.keeps
    have hi := (handover_standing_eq_ok_iff "Add Basket Product" hf b p i).2
      ⟨spot, (standing_eq_some_iff hnamed b spot).2 howner, hserves⟩
    exact ⟨b, _, hpick.basket,
      (taking_eq_ok_iff _ _ _ _ _ _).2 ⟨i, by omega, hi, henough, by omega, rfl⟩⟩

/-- A pick that meets its conditions is carried out, and answered if its quantity can be written. -/
theorem run_of_pickable (hsound : shop.Sound)
    (hnamed : ∀ c r, shop.customers.get? c = some r → c ≠ "") {token : Option String}
    (htoken : isToken token = true) {k : String} {b : Basket} {q : Int}
    (h : shop.Pickable k p q b i) :
    run token (Pick.operation ⟨some k, some p, q⟩) shop =
      ((b.holding ⟨some k, some p, q⟩).logged q, shop.handed ⟨some k, some p, q⟩ i) := by
  have hf := hsound.filed.floor
  rcases h.beside with ⟨spot, howner, hserves⟩
  have hpos := h.positive
  have hsource : shop.source? ⟨some k, some p, q⟩ = some i :=
    (source?_eq_some_iff _ i).2 ⟨k, b, p, spot, rfl, h.basket, rfl,
      (standing_eq_some_iff hnamed b spot).2 howner, choose_of_serves hf hserves,
      hserves.offers.here⟩
  rcases run_pick hsound htoken hsource (by dsimp only; omega) h.enough with ⟨b', hb', hrun⟩
  have hbasket : shop.baskets.find? (some k) = some b := h.basket
  rw [hbasket, Option.some.injEq] at hb'
  rw [hrun, ← hb']

/-- What a request to take units of a product into a basket comes to, where no customer has the
    empty id. Its conditions are that the basket is there, the quantity is positive, the owner of the
    basket stands in an aisle, and the inventory with the least id among those of the product in that
    aisle has as many units. If they are met, that inventory loses the units and the line of the
    basket gains them, in its place or as the last line if it is new, and nothing else changes; and
    the request succeeds, as long as the quantity can be written. If they are not, the request is
    refused for the first condition that it does not meet, with a failure of the kind for it unless a
    number in its words cannot be written, and nothing changes at all. -/
theorem pick_exactly (h : Reachable shop)
    (hnamed : ∀ c r, shop.customers.get? c = some r → c ≠ "") {token : Option String}
    (htoken : isToken token = true) (k p : String) (q : Int) :
    let pick : Pick := ⟨some k, some p, q⟩
    ((∃ reply, (run token pick.operation shop).1 = .ok reply) ↔
      (∃ b i, shop.Pickable k p q b i) ∧ Number.writable q = true) ∧
    (∀ b i, shop.Pickable k p q b i →
      run token pick.operation shop = ((b.holding pick).logged q, shop.handed pick i) ∧
        (∀ n, b.lines.get? p = some n →
          (b.holding pick).lines = b.lines.adjust p fun _ => n + q) ∧
        (b.lines.get? p = none → (b.holding pick).lines.entries = b.lines.entries ++ [(p, q)])) ∧
    ((¬ ∃ b i, shop.Pickable k p q b i) →
      ∃ c, ∃ cause : Cause, FirstUnmet (shop.pickConditions k p q) c ∧ c.RefusedBy cause ∧
        run token pick.operation shop = (.error (cause.fault pick.operation.action), shop)) := by
  intro pick
  have hsound := h.sound
  have hdone : ∀ {b i}, shop.Pickable k p q b i →
      run token pick.operation shop = ((b.holding pick).logged q, shop.handed pick i) :=
    run_of_pickable hsound hnamed htoken
  have hrefused : (¬ ∃ b i, shop.Pickable k p q b i) →
      ∃ c, ∃ cause : Cause, FirstUnmet (shop.pickConditions k p q) c ∧ c.RefusedBy cause ∧
        run token pick.operation shop = (.error (cause.fault "Add Basket Product"), shop) := by
    intro hnone
    rw [← exists_taking_iff hsound hnamed] at hnone
    exact run_pick_unmet hsound hnamed htoken k p q fun b i hb htaking => hnone ⟨b, i, hb, htaking⟩
  refine ⟨⟨?_, ?_⟩, fun b i hpick => ⟨hdone hpick, b.holding_lines (some k) p q⟩, hrefused⟩
  · rintro ⟨reply, hok⟩
    by_cases hpick : ∃ b i, shop.Pickable k p q b i
    · refine ⟨hpick, ?_⟩
      rcases hpick with ⟨b, i, hpick⟩
      rw [hdone hpick] at hok
      dsimp only at hok
      exact Basket.writable_of_logged hok
    · rcases hrefused hpick with ⟨c, cause, -, -, hrun⟩
      rw [hrun] at hok
      cases hok
  · rintro ⟨⟨b, i, hpick⟩, hq⟩
    rw [hdone hpick]
    dsimp only
    exact ⟨_, (b.holding pick).logged_of_writable hq⟩

/-- The morning, and after it more rye in another aisle, in an inventory with a lower id. -/
def laterMorning : List (Option String × Operation) :=
  let ask op := (some "key", op)
  morning ++
    [ask (.provisionAisle (some "north") (some "2") (some "Cellar") none none),
      ask (.provisionShelf (some "north") (some "2") (some "a") (some "Low") (some "low") none
        (some "ambient")),
      ask (.provisionInventory (some "h9") (some "north") (some "2") (some "a") (some 50) (some 50)
        (some "rye") none)]

/-- The five units in the aisle of the owner can be taken, and a sixth cannot, although there are
    fifty in the other aisle. -/
theorem pick_beside_owner :
    let shop := runAll .empty laterMorning
    let take (q : Int) : Pick := ⟨some "b1", some "rye", q⟩
    (∀ c r, shop.customers.get? c = some r → c ≠ "") ∧
      (∃ reply, (run (some "key") (take 5).operation shop).1 = .ok reply) ∧
      ¬ ∃ reply, (run (some "key") (take 6).operation shop).1 = .ok reply := by
  intro shop take
  have hreach : Reachable shop := Reachable.empty.runAll laterMorning
  have htoken : isToken (some "key") = true := by decide +kernel
  have hnamed : ∀ c r, shop.customers.get? c = some r → c ≠ "" :=
    named_of_get?_eq_none (by decide +kernel)
  have hf := hreach.sound.filed.floor
  -- Nothing else of the product stands in the aisle.
  have hrye : ∃ i, shop.inventory? (some "i1") = some i ∧ shop.Serves "rye" ⟨"north", "1"⟩ i ∧
      i.count = 5 ∧ i.capacity = 10 :=
      exists_serves_of_alone hf (by decide +kernel) (by decide +kernel)
  rcases hrye with ⟨i, -, hserves, hcount, -⟩
  have hbasket : (shop.baskets.get? "b1").map shop.standing = some (some ⟨"north", "1"⟩) := by
    decide +kernel
  rcases Option.map_eq_some_iff.1 hbasket with ⟨b, hb, hstanding⟩
  have howner := (standing_eq_some_iff hnamed b _).1 hstanding
  refine ⟨hnamed, ?_, fun hsix => ?_⟩
  · exact (pick_exactly hreach hnamed htoken "b1" "rye" 5).1.2
      ⟨⟨b, i, hb, by omega, ⟨_, howner, hserves⟩, by omega⟩, by decide +kernel⟩
  · rcases (pick_exactly hreach hnamed htoken "b1" "rye" 6).1.1 hsix with ⟨⟨b', i', hpick⟩, -⟩
    -- There is one inventory that it could be.
    rcases hpick.beside with ⟨spot', howner', hserves'⟩
    have hserved : shop.ServedBy "b1" "rye" i := ⟨b, _, hb, howner, hserves⟩
    have hserved' : shop.ServedBy "b1" "rye" i' := ⟨b', spot', hpick.basket, howner', hserves'⟩
    have henough := hpick.enough
    rw [← hserved.unique hf hserved'] at henough
    omega

/-- So the refusal of a quantity that is not positive can be no failure at all. -/
theorem pick_unsayable :
    ¬ ∀ shop, Reachable shop → (∀ c r, shop.customers.get? c = some r → c ≠ "") →
      ∀ token, isToken token = true → ∀ k p q e,
        (run token (.addBasketProduct (some k) (some p) (some q)) shop).1 = .error e →
        ∃ action cause c, e = .failure action cause ∧
          FirstUnmet (shop.pickConditions k p q) c ∧ cause.kind = c.kind := by
  intro hall
  have hrun : (run (some "key") (.addBasketProduct (some "b1") (some "rye")
      (some (-(Number.greatest + 1)))) (runAll .empty morning)).1 =
        .error (.badValue .longNumber) := by decide +kernel
  rcases hall (runAll .empty morning) (Reachable.empty.runAll morning)
    (named_of_get?_eq_none (by decide +kernel)) (some "key") (by decide +kernel) "b1" "rye" _ _ hrun
    with ⟨action, cause, c, hfailure, -⟩
  cases hfailure

end Shop

end Shopfloor
