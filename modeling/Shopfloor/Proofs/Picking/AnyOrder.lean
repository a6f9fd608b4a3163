import Shopfloor.Proofs.Picking.Taken
/-!
# Picks in Any Order

Requests to take units into baskets that come one after the other, with nothing
in between, and what does not depend on the order in which they come.

A run of picks is followed with the picks that were carried out so far, of which
`Taken` knows everything there is to know. One more pick is carried out exactly if
its source has as much left, so all of a run are carried out exactly if every pick
has a source and no inventory is asked for more than it has. That condition has
no order in it, and neither has the shop that is left.

A pick that is carried out succeeds if its quantity can be written. For any other
quantity the units change places and the pick fails, so the sums are those of the
picks that were carried out, and a pick may count among them that was not accepted.
For quantities that can be written there is no difference between the two.

Where not all are carried out, the order does decide which ones are, and so how
much is taken. What is taken from an inventory is what it loses, and it cannot
lose more than it had. With single units even the number does not depend on the
order: units go until none is left or nobody asks any more.

## Main definitions

* `Shop.results`, `Shop.picked`: How picks end, and the shop afterwards.
* `Pick.succeeds`, `Pick.isDone`: Whether a pick is answered, and whether it is carried out.
* `Shop.carriedOut`: The picks that are carried out.
* `Shop.drawn`: The quantities of picks that come from an inventory.

## Theorems

* `succeeds_eq`: A pick succeeds that is carried out and can be written about.
* `Taken.picked`: A run of picks takes those that are carried out.
* `Taken.results_ok_iff`: When all succeed.
* `Taken.length_drawn`: How many single units are taken.
* `picks_in_any_order`: What does not depend on the order.
* `loss_without_acceptance`: An inventory can lose units to a pick that fails.
-/

namespace Shopfloor

/-- Whether a pick is answered. -/
def Pick.succeeds (token : Option String) (shop : Shop) (pick : Pick) : Bool :=
  (Shop.run token pick.operation shop).1.isOk

/-- Whether a pick is carried out, be it that the line about it cannot be written. -/
def Pick.isDone (token : Option String) (shop : Shop) (pick : Pick) : Bool :=
  ((Shop.attempt token pick.operation).runIn shop).1.isOk

namespace Shop

/-- How picks end that are asked for one after the other. -/
def results (token : Option String) : Shop → List Pick → List (Except Fault Reply)
  | _, [] => []
  | shop, pick :: picks =>
    (run token pick.operation shop).1 :: results token (run token pick.operation shop).2 picks

/-- The shop after picks that are asked for one after the other. -/
def picked (shop : Shop) (token : Option String) (picks : List Pick) : Shop :=
  runAll shop (picks.map fun pick => (token, pick.operation))

/-- The picks that are carried out when they are asked for one after the other. -/
def carriedOut (token : Option String) : Shop → List Pick → List Pick
  | _, [] => []
  | shop, pick :: picks =>
    let later := carriedOut token (run token pick.operation shop).2 picks
    if pick.isDone token shop then pick :: later else later

/-- The quantities of the picks that end in a given way while the inventory with an id is their
    source. -/
def drawn (ends : Option String → Shop → Pick → Bool) (token : Option String) (id : String) :
    Shop → List Pick → List Int
  | _, [] => []
  | shop, pick :: picks =>
    let later := drawn ends token id (run token pick.operation shop).2 picks
    if ends token shop pick = true ∧ (shop.source? pick).map Inventory.id = some id then
      pick.quantity :: later
    else later

variable {shop now : Shop} {token : Option String} {taken picks : List Pick} {i : Inventory}

/-! ## A run of picks -/

/-- A pick succeeds if it is carried out and its quantity can be written. -/
theorem succeeds_eq (pick : Pick) :
    pick.succeeds token now = (pick.isDone token now && Number.writable pick.quantity) := by
  unfold Pick.succeeds Pick.isDone
  rw [run_eq_attempt]
  rcases (attempt token pick.operation).runIn now with ⟨e | reply, next⟩
  · rfl
  · -- The line about the pick names the quantity and nothing else.
    dsimp only [Except.bind]
    unfold Operation.recorded Pick.operation
    cases hq : Number.writable pick.quantity with
    | true => simp [Operation.logged, hq, Except.isOk, Except.toBool]
    | false => simp [Operation.logged, hq, Except.isOk, Except.toBool]

/-- Picks of quantities that can be written are accepted if they are carried out. -/
theorem drawn_succeeds_eq (id : String)
    (hwritable : ∀ pick ∈ picks, Number.writable pick.quantity = true) :
    drawn Pick.succeeds token id now picks = drawn Pick.isDone token id now picks := by
  induction picks generalizing now with
  | nil => rfl
  | cons pick picks ih =>
      rw [List.forall_mem_cons] at hwritable
      rw [drawn, drawn, ih hwritable.2, succeeds_eq, hwritable.1, Bool.and_true]

theorem isDone_of_ok {pick : Pick} {reply : Reply}
    (h : ((attempt token pick.operation).runIn now).1 = .ok reply) :
    pick.isDone token now = true := by
  unfold Pick.isDone
  rw [h]
  rfl

theorem isDone_of_error {pick : Pick} {e : Fault}
    (h : ((attempt token pick.operation).runIn now).1 = .error e) :
    pick.isDone token now = false := by
  unfold Pick.isDone
  rw [h]
  rfl

/-- A run of picks takes those that are carried out. -/
theorem Taken.picked (h : shop.Taken taken now) (hf : Filing shop.stores)
    (htoken : isToken token = true) (hpos : ∀ pick ∈ picks, 0 < pick.quantity) :
    shop.Taken (taken ++ carriedOut token now picks) (now.picked token picks) := by
  induction picks generalizing taken now with
  | nil =>
      rw [carriedOut, List.append_nil]
      exact h
  | cons pick picks ih =>
      rw [List.forall_mem_cons] at hpos
      have hnext : now.picked token (pick :: picks) =
          (run token pick.operation now).2.picked token picks := rfl
      rw [hnext, carriedOut]
      rcases h.pick_cases hf htoken hpos.1 with
        ⟨i, reply, hsource, hle, hdone, hnow⟩ | ⟨hshort, ⟨e, hrefused⟩, hsame⟩
      · -- The pick joins those that were taken, and the rest goes on from there.
        rw [if_pos (isDone_of_ok hdone)]
        have hlater := ih hnow hpos.2
        rwa [List.append_assoc] at hlater
      · rw [if_neg (by simp [isDone_of_error hrefused]), hsame]
        exact ih h hpos.2

/-- What is taken from an inventory is what the picks that are carried out ask of it. -/
theorem Taken.demand_carriedOut (h : shop.Taken taken now) (hf : Filing shop.stores)
    (htoken : isToken token = true) (hpos : ∀ pick ∈ picks, 0 < pick.quantity)
    (hi : shop.Keeps i) :
    shop.demand (carriedOut token now picks) i = (drawn Pick.isDone token i.id now picks).sum := by
  induction picks generalizing taken now with
  | nil => rfl
  | cons pick picks ih =>
      rw [List.forall_mem_cons] at hpos
      rw [carriedOut, drawn]
      simp only [h.source?_id hf hi]
      rcases h.pick_cases hf htoken hpos.1 with
        ⟨j, reply, hsource, hle, hdone, hnow⟩ | ⟨hshort, ⟨e, hrefused⟩, hsame⟩
      · have hlater := ih hnow hpos.2
        rw [isDone_of_ok hdone]
        by_cases hij : shop.source? pick = some i
        · simp [demand_cons, hij, hlater]
        · simp [demand_cons, hij, hlater]
      · have hlater := ih h hpos.2
        rw [isDone_of_error hrefused, hsame]
        simp [hlater]

/-! ## When all succeed -/

theorem results_cons (pick : Pick) (picks : List Pick) :
    (∀ r ∈ results token now (pick :: picks), r.isOk = true) ↔
      pick.succeeds token now = true ∧
        ∀ r ∈ results token (run token pick.operation now).2 picks, r.isOk = true := by
  rw [results, List.forall_mem_cons]
  rfl

/-- All picks succeed exactly if their quantities can be written, each has a source and, together
    with what was taken before, they ask no inventory for more than it has. -/
theorem Taken.results_ok_iff (h : shop.Taken taken now) (hf : Filing shop.stores)
    (htoken : isToken token = true) (hpos : ∀ pick ∈ picks, 0 < pick.quantity) :
    (∀ r ∈ results token now picks, r.isOk = true) ↔
      (∀ pick ∈ picks, Number.writable pick.quantity = true ∧ ∃ i, shop.source? pick = some i) ∧
        ∀ i, shop.Keeps i → 0 ≤ shop.left (taken ++ picks) i := by
  induction picks generalizing taken now with
  | nil =>
      rw [results, List.append_nil]
      simp only [List.not_mem_nil, false_imp_iff, implies_true, true_and, true_iff]
      exact fun i hi => h.left_nonneg hi
  | cons pick picks ih =>
      rw [List.forall_mem_cons] at hpos
      rw [results_cons, succeeds_eq, Bool.and_eq_true, List.forall_mem_cons, List.append_cons]
      rcases h.pick_cases hf htoken hpos.1 with
        ⟨i, reply, hsource, hle, hdone, hnow⟩ | ⟨hshort, ⟨e, hrefused⟩, hsame⟩
      · rw [ih hnow hpos.2, isDone_of_ok hdone]
        simp only [hsource, Option.some.injEq, exists_eq', true_and, and_true, and_assoc]
      · -- A pick that is refused has no source, or what follows makes it only worse.
        rw [isDone_of_error hrefused]
        constructor
        · rintro ⟨⟨hno, -⟩, -⟩
          cases hno
        · rintro ⟨⟨⟨-, i, hsource⟩, -⟩, hleft⟩
          have hrest : 0 ≤ shop.demand picks i := demand_nonneg hpos.2 i
          have hall := hleft i (keeps_of_source? hf hsource)
          have hlt := hshort i hsource
          have hone : shop.left (taken ++ [pick]) i = shop.left taken i - pick.quantity := by
            rw [left_append_singleton, if_pos hsource]
          unfold left at hall hone hlt
          rw [demand_append] at hall
          omega

/-- Picks that all succeed are those that are carried out. -/
theorem carriedOut_eq_self (h : ∀ r ∈ results token now picks, r.isOk = true) :
    carriedOut token now picks = picks := by
  induction picks generalizing now with
  | nil => rfl
  | cons pick picks ih =>
      rw [results_cons, succeeds_eq, Bool.and_eq_true] at h
      rw [carriedOut, if_pos h.1.1, ih h.2]

/-! ## Single units -/

/-- Of single units as many are taken as are left, or as are asked for. -/
theorem Taken.length_drawn (h : shop.Taken taken now) (hf : Filing shop.stores)
    (htoken : isToken token = true) (hone : ∀ pick ∈ picks, pick.quantity = 1)
    (hi : shop.Keeps i) :
    ((drawn Pick.isDone token i.id now picks).length : Int) =
      min (shop.left taken i) (picks.countP fun pick => shop.source? pick = some i) := by
  induction picks generalizing taken now with
  | nil =>
      have hleft := h.left_nonneg hi
      rw [drawn, List.countP_nil, List.length_nil]
      omega
  | cons pick picks ih =>
      rw [List.forall_mem_cons] at hone
      have hpos : 0 < pick.quantity := by omega
      have hleft := h.left_nonneg hi
      rw [drawn]
      simp only [h.source?_id hf hi]
      rcases h.pick_cases hf htoken hpos with
        ⟨j, reply, hsource, hle, hdone, hnow⟩ | ⟨hshort, ⟨e, hrefused⟩, hsame⟩
      · have hlater := ih hnow hone.2
        rw [left_append_singleton] at hlater
        by_cases hij : shop.source? pick = some i
        · -- One unit is gone, and one pick fewer is to come.
          rw [hsource, Option.some.injEq] at hij
          subst hij
          rw [if_pos hsource] at hlater
          rw [if_pos ⟨isDone_of_ok hdone, hsource⟩, List.length_cons,
            List.countP_cons_of_pos (by simpa using hsource)]
          push_cast
          omega
        · rw [if_neg hij, sub_zero] at hlater
          rw [if_neg fun hand => hij hand.2, List.countP_cons_of_neg (by simpa using hij)]
          exact hlater
      · have hlater := ih h hone.2
        rw [if_neg (by simp [isDone_of_error hrefused]), hsame]
        by_cases hij : shop.source? pick = some i
        · -- Nothing was left of it, so no later pick finds anything either.
          have hlt := hshort i hij
          rw [List.countP_cons_of_pos (by simpa using hij)]
          push_cast
          omega
        · rw [List.countP_cons_of_neg (by simpa using hij)]
          exact hlater

/-! ## All together -/

/-- What does not depend on the order in which picks come. If all of them succeed in one order, they
    succeed in any other, and the shops that are left differ at most in the order of the lines in
    baskets. In any order, and whatever fails, each inventory loses exactly the quantities of the
    picks from it that are carried out, and never more than it has; these are the picks that succeed,
    as long as their quantities can be written. And if all picks are for single units, the number
    that succeeds of those from an inventory is the same in any order: what there is, or as many as
    come from it. -/
theorem picks_in_any_order (h : Reachable shop) (htoken : isToken token = true)
    {picks picks' : List Pick} (hperm : picks.Perm picks')
    (hpos : ∀ pick ∈ picks, 0 < pick.quantity) :
    ((∀ r ∈ results token shop picks, r.isOk = true) →
      (∀ r ∈ results token shop picks', r.isOk = true) ∧
        (shop.picked token picks).SameButLines (shop.picked token picks')) ∧
    ∀ k i, shop.inventory? (some k) = some i →
      (shop.picked token picks').inventory? (some k) =
        some { i with count := i.count - (drawn Pick.isDone token k shop picks').sum } ∧
      0 ≤ i.count - (drawn Pick.isDone token k shop picks').sum ∧
      ((∀ pick ∈ picks, Number.writable pick.quantity = true) →
        drawn Pick.isDone token k shop picks' = drawn Pick.succeeds token k shop picks') ∧
      ((∀ pick ∈ picks, pick.quantity = 1) →
        ((drawn Pick.succeeds token k shop picks').length : Int) =
          min i.count (picks.countP fun pick => shop.source? pick = some i)) := by
  have hsound := h.sound
  have hf := hsound.filed.floor
  have hbegin := taken_nil hsound
  have hother {P : Pick → Prop} (hall : ∀ pick ∈ picks, P pick) : ∀ pick ∈ picks', P pick :=
    fun pick hpick => hall pick (hperm.mem_iff.2 hpick)
  have hend' := hbegin.picked hf htoken (hother hpos)
  rw [List.nil_append] at hend'
  refine ⟨fun hall => ?_, fun k i hfound => ?_⟩
  · -- That all succeed is a condition on sums, and so it passes to the other order.
    have hall' : ∀ r ∈ results token shop picks', r.isOk = true := by
      rw [hbegin.results_ok_iff hf htoken hpos] at hall
      rw [hbegin.results_ok_iff hf htoken (hother hpos)]
      refine ⟨hother hall.1, fun i hi => ?_⟩
      have hleft := hall.2 i hi
      unfold left at hleft ⊢
      rwa [List.nil_append, ← demand_perm hperm]
    have hend := hbegin.picked hf htoken hpos
    rw [List.nil_append, carriedOut_eq_self hall] at hend
    rw [carriedOut_eq_self hall'] at hend'
    exact ⟨hall', hend.sameButLines hend' hperm⟩
  · rcases (inventory?_eq_some_iff hf k i).1 hfound with ⟨hi, rfl⟩
    have hleft : shop.left (carriedOut token shop picks') i =
        i.count - (drawn Pick.isDone token i.id shop picks').sum := by
      unfold left
      rw [hbegin.demand_carriedOut hf htoken (hother hpos) hi]
    have hkept := hend'.keeps hi
    have hnonneg := hend'.left_nonneg hi
    unfold Inventory.counted at hkept
    rw [hleft] at hkept hnonneg
    refine ⟨(inventory?_eq_some_iff hend'.sound.filed.floor _ _).2 ⟨hkept, rfl⟩, hnonneg,
      fun hwritable => (drawn_succeeds_eq i.id (hother hwritable)).symm, fun hone => ?_⟩
    have hwritable : ∀ pick ∈ picks, Number.writable pick.quantity = true := by
      intro pick hpick
      rw [hone pick hpick]
      exact Number.writable_one
    have hlength := hbegin.length_drawn hf htoken (hother hone) hi
    have hcount : shop.left [] i = i.count := sub_zero _
    rw [drawn_succeeds_eq i.id (hother hwritable), hlength, hcount, hperm.countP_eq]

/-- Five units stand on the shelf after the morning. Picks for two and for three leave the same shop
    in both orders, and of six picks for one unit five succeed, wherever a pick into a basket that is
    not there comes in between. -/
theorem picked_after_morning :
    let shop := runAll .empty morning
    let take (q : Int) : Pick := ⟨some "b1", some "rye", q⟩
    let stray : Pick := ⟨some "b2", some "rye", 1⟩
    (∀ r ∈ results (some "key") shop [take 2, take 3], r.isOk = true) ∧
      (shop.picked (some "key") [take 2, take 3]).SameButLines
        (shop.picked (some "key") [take 3, take 2]) ∧
      (drawn Pick.succeeds (some "key") "i1" shop
        (stray :: List.replicate 6 (take 1))).length = 5 := by
  intro shop take stray
  have hreach : Reachable shop := Reachable.empty.runAll morning
  have htoken : isToken (some "key") = true := by decide
  have hall : ∀ r ∈ results (some "key") shop [take 2, take 3], r.isOk = true := by decide +kernel
  have hswap := picks_in_any_order hreach htoken (List.Perm.swap (take 3) (take 2) [])
    (by decide +kernel)
  refine ⟨hall, (hswap.1 hall).2, ?_⟩
  have hfound : (shop.inventory? (some "i1")).map Inventory.count = some 5 := by decide +kernel
  rcases Option.map_eq_some_iff.1 hfound with ⟨i, hi, hcount⟩
  have hperm : (List.replicate 6 (take 1) ++ [stray]).Perm (stray :: List.replicate 6 (take 1)) := by
    decide +kernel
  have hlength := ((picks_in_any_order hreach htoken hperm (by decide +kernel)).2 "i1" i hi).2.2.2
    (by decide +kernel)
  -- All picks but the stray one come from the one inventory.
  have hsource : shop.source? (take 1) = some i := by
    rw [← hi]
    decide +kernel
  have hstray : shop.source? stray = none := by decide +kernel
  simp only [List.countP_append, List.countP_replicate, List.countP_singleton, hsource, hstray,
    hcount, reduceCtorEq, decide_true, decide_false, if_true, Bool.false_eq_true,
    if_false] at hlength
  omega

/-- A pick of more units than can be written fails, and the shelf has lost them. So what an inventory
    loses is not what was accepted. -/
theorem loss_without_acceptance :
    ¬ ∀ shop, Reachable shop → ∀ token, isToken token = true → ∀ picks : List Pick,
      (∀ pick ∈ picks, 0 < pick.quantity) → ∀ k i, shop.inventory? (some k) = some i →
        (shop.picked token picks).inventory? (some k) =
          some { i with count := i.count - (drawn Pick.succeeds token k shop picks).sum } := by
  intro hall
  let shop := runAll .empty (bulkMorning (Number.greatest + 1))
  let pick : Pick := ⟨some "b1", some "rye", Number.greatest + 1⟩
  have hreach : Reachable shop := Reachable.empty.runAll _
  have hfound : (shop.inventory? (some "i1")).isSome = true := by decide +kernel
  rcases Option.isSome_iff_exists.1 hfound with ⟨i, hi⟩
  have hlost := hall shop hreach (some "key") (by decide) [pick] (by decide +kernel) "i1" i hi
  -- Nothing was accepted, and nothing is left.
  have hbefore : (shop.inventory? (some "i1")).map Inventory.count = some (Number.greatest + 1) := by
    decide +kernel
  have hafter : ((shop.picked (some "key") [pick]).inventory? (some "i1")).map Inventory.count =
      some 0 := by decide +kernel
  have hnone : drawn Pick.succeeds (some "key") "i1" shop [pick] = [] := by decide +kernel
  rw [hlost, hnone, List.sum_nil, sub_zero, Option.map_some, Option.some.injEq] at hafter
  rw [hi, Option.map_some, Option.some.injEq] at hbefore
  have hpositive : (0 : Int) < Number.greatest + 1 := by decide +kernel
  have hcount : i.count = 0 := hafter
  omega

end Shop

end Shopfloor
