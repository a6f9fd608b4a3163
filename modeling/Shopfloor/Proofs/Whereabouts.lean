import Mathlib.Data.List.Induction
import Shopfloor.Proofs.History
/-!
# Where Customers Stand

A customer stands where they last walked, unless the store there has closed since.

Closing a store looks at the list of the store and not at the customers, so a
customer who is not on the list would keep standing in a store that is gone, or
in another one that opens under the same id. That nobody is missing from a list
is `Placed`. With it one step has a plain law, `Operation.leads`: a walk decides
where its customer is, a closing sends away whoever was in the store, and nothing
else moves anybody. A store that opens again has no part in it.

The law of a run is the law of a step, folded over the deeds of the run. What it
comes to for one customer can be read off the deeds without folding anything,
`LedTo`: the last walk and what came after it.

Whether a customer was ever seen only grows, and grows only by walking.

## Main definitions

* `Operation.leads`: Where an operation that succeeds leaves a customer.
* `Operation.sees`: Whether it sees a customer.
* `LedTo`: Operations have led a customer to an aisle.
* `Shop.seenOf`: Whether a customer was ever seen.

## Theorems

* `foldl_leads_eq_some_iff`: Where operations lead a customer who was nowhere.
* `Step.spotOf`, `Step.seenOf`: What a step does to where a customer is.
* `Trace.spotOf`, `Trace.seenOf`: The same of a run.
* `spot_of_last_walk`: Where customers stand after a run.
-/

namespace Shopfloor

/-- Where an operation that succeeds leaves a customer, who stood somewhere before. -/
def Operation.leads (c : String) : Operation → Option AisleSpot → Option AisleSpot
  | .updateCustomer id store number, spot =>
    if id = some c then store.bind fun k => number.map fun n => ⟨k, n⟩ else spot
  | .deleteStore (some k), spot => if spot.map AisleSpot.store = some k then none else spot
  | _, spot => spot

/-- Whether an operation that succeeds sees a customer in an aisle. -/
def Operation.sees (c : String) : Operation → Bool
  | .updateCustomer id _ _ => id == some c
  | _ => false

/-- Operations have led a customer to an aisle: the last walk of the customer was there, and the
    store has not closed since. -/
def LedTo (c : String) (ops : List Operation) (spot : AisleSpot) : Prop :=
  ∃ before after,
    ops = before ++ .updateCustomer (some c) (some spot.store) (some spot.aisle) :: after ∧
    (∀ store number, .updateCustomer (some c) store number ∉ after) ∧
    .deleteStore (some spot.store) ∉ after

/-- An operation leaves a customer in an aisle if they walk there, or if they were there and the
    operation is neither a walk of theirs nor the closing of the store. -/
theorem Operation.leads_eq_some_iff (c : String) (op : Operation) (at₀ : Option AisleSpot)
    (spot : AisleSpot) :
    op.leads c at₀ = some spot ↔
      op = .updateCustomer (some c) (some spot.store) (some spot.aisle) ∨
        at₀ = some spot ∧ (∀ store number, op ≠ .updateCustomer (some c) store number) ∧
          op ≠ .deleteStore (some spot.store) := by
  cases op with
  | updateCustomer id store number =>
      dsimp only [leads]
      by_cases hid : id = some c
      · -- A walk of theirs decides, wherever they were before.
        subst hid
        rw [if_pos rfl]
        constructor
        · intro h
          rcases Option.bind_eq_some_iff.1 h with ⟨k, rfl, hk⟩
          rcases Option.map_eq_some_iff.1 hk with ⟨n, rfl, rfl⟩
          exact Or.inl rfl
        · rintro (hwalk | ⟨-, hno, -⟩)
          · rw [updateCustomer.injEq] at hwalk
            rw [hwalk.2.1, hwalk.2.2]
            rfl
          · exact absurd rfl (hno store number)
      · rw [if_neg hid]
        simp [hid]
  | deleteStore id =>
      cases id with
      | none => simp [leads]
      | some k =>
          dsimp only [leads]
          by_cases hk : at₀.map AisleSpot.store = some k
          · rw [if_pos hk]
            -- Whoever was in the store is nowhere.
            refine ⟨nofun, ?_⟩
            rintro (hwalk | ⟨hat, -, hopen⟩)
            · cases hwalk
            · rw [hat, Option.map_some, Option.some.injEq] at hk
              exact absurd (by rw [hk]) hopen
          · rw [if_neg hk]
            constructor
            · intro hat
              refine Or.inr ⟨hat, nofun, fun he => hk ?_⟩
              rw [deleteStore.injEq] at he
              rw [hat, he, Option.map_some]
            · rintro (hwalk | ⟨hat, -, -⟩)
              · cases hwalk
              · exact hat
  | _ => simp [leads]

/-- Where operations lead a customer, one after the other, who was nowhere at first. -/
theorem foldl_leads_eq_some_iff (c : String) (ops : List Operation) (spot : AisleSpot) :
    ops.foldl (fun at₀ op => op.leads c at₀) none = some spot ↔ LedTo c ops spot := by
  induction ops using List.reverseRecOn with
  | nil =>
      refine ⟨nofun, ?_⟩
      rintro ⟨before, after, hsplit, -⟩
      exact absurd hsplit (by simp)
  | append_singleton ops op ih =>
      rw [List.foldl_append, List.foldl_cons, List.foldl_nil, Operation.leads_eq_some_iff, ih]
      constructor
      · rintro (rfl | ⟨⟨before, after, rfl, hwalk, hopen⟩, hop, hclose⟩)
        · exact ⟨ops, [], rfl, fun _ _ => List.not_mem_nil, List.not_mem_nil⟩
        · -- The last walk is the same, and one operation more has come after it.
          refine ⟨before, after ++ [op], ?_, fun store number hmem => ?_, fun hmem => ?_⟩
          · rw [List.append_assoc, List.cons_append]
          · rcases List.mem_append.1 hmem with hin | hlast
            · exact hwalk store number hin
            · exact hop store number (List.mem_singleton.1 hlast).symm
          · rcases List.mem_append.1 hmem with hin | hlast
            · exact hopen hin
            · exact hclose (List.mem_singleton.1 hlast).symm
      · rintro ⟨before, after, hsplit, hwalk, hopen⟩
        -- Either the walk came last, or something else did.
        rcases List.eq_nil_or_concat after with rfl | ⟨rest, last, rfl⟩
        · exact Or.inl (List.append_inj_right' hsplit rfl |> List.singleton_inj.1)
        · rw [List.concat_eq_append, ← List.cons_append, ← List.append_assoc] at hsplit
          rw [List.concat_eq_append] at hwalk hopen
          have hops := List.append_inj_left' hsplit rfl
          have hlast := List.singleton_inj.1 (List.append_inj_right' hsplit rfl)
          subst hops hlast
          refine Or.inr ⟨⟨before, rest, rfl, fun store number hin => ?_, fun hin => ?_⟩,
            fun store number he => ?_, fun he => ?_⟩
          · exact hwalk store number (List.mem_append_left _ hin)
          · exact hopen (List.mem_append_left _ hin)
          · exact hwalk store number (List.mem_append_right _ (List.mem_singleton.2 he.symm))
          · exact hopen (List.mem_append_right _ (List.mem_singleton.2 he.symm))

namespace Shop

variable {shop shop' : Shop}

/-- Whether a customer was ever seen in an aisle. -/
def seenOf (shop : Shop) (c : String) : Bool := (shop.customers.get? c).any Customer.seen

theorem seenOf_of_get? {k : String} {c : Customer} (hc : shop.customers.get? k = some c) :
    shop.seenOf k = c.seen := by
  unfold seenOf
  rw [hc, Option.any_some]

/-- What looks only leads nobody anywhere and sees nobody. -/
theorem leads_of_query {op : Operation} {r : Reply} (h : shop.query op = some r) (c : String)
    (at₀ : Option AisleSpot) : op.leads c at₀ = at₀ ∧ op.sees c = false := by
  cases op <;> first
    | exact ⟨rfl, rfl⟩
    | cases h

/-- Moving units leads nobody anywhere and sees nobody. -/
theorem leads_of_countsUnits {op : Operation} (h : op.countsUnits = true) (c : String)
    (at₀ : Option AisleSpot) : op.leads c at₀ = at₀ ∧ op.sees c = false := by
  cases op <;> first
    | exact ⟨rfl, rfl⟩
    | cases h

/-- A step leaves every customer where its operation says. -/
theorem Step.spotOf {op : Operation} {r : Reply} (h : Step shop op r shop')
    (hsound : shop.Sound) (c : String) : shop'.spotOf c = op.leads c (shop.spotOf c) := by
  have hids := hsound.filed.baskets
  cases h with
  | query hquery => exact (leads_of_query hquery c _).1.symm
  | addCustomer _ hi _ hr =>
      subst hr
      exact Keyed.bind_insert _ _ _ _ c hi rfl
  | @moveCustomer i k n r s a hr hs ha =>
      rcases hsound.store_self hs with ⟨hk, hself⟩
      have hn := ((hsound.filed.floor.filed k s hs).2.aisles n a ha).1
      rw [spotOf_afterMove (hsound.customer_self hr).2 hids hself, (hsound.customer_self hr).1, hk,
        hn]
      dsimp only [Operation.leads]
      by_cases hc : c = i
      · rw [if_pos hc, if_pos (congrArg some hc.symm)]
        rfl
      · rw [if_neg hc, if_neg fun he => hc (Option.some.inj he).symm]
  | @closeStore k s hs =>
      rcases hsound.store_self hs with ⟨hk, hself⟩
      rw [spotOf_without hsound.placed hself, hk]
      rfl
  | assignBasket hr hq _ _ _ =>
      exact spotOf_afterAssign (hsound.basket_self hq).2 (hsound.placed.spot_store hr) c
  | _ => rfl

/-- A customer is seen by walking, and stays seen. -/
theorem Step.seenOf {op : Operation} {r : Reply} (h : Step shop op r shop')
    (hsound : shop.Sound) (c : String) : shop'.seenOf c = (shop.seenOf c || op.sees c) := by
  -- What changes no customer in this respect sees nobody.
  have hsame : shop'.seenOf c = shop.seenOf c → shop'.seenOf c = (shop.seenOf c || false) :=
    fun h => h.trans (Bool.or_false _).symm
  cases h with
  | query hquery => rw [(leads_of_query hquery c none).2, Bool.or_false]
  | @addCustomer i _ _ _ _ _ _ _ hi _ hr =>
      subst hr
      refine hsame ?_
      unfold Shop.seenOf
      dsimp only
      rw [Keyed.get?_insert]
      by_cases hc : c = i
      · rw [if_pos hc, hc, hi]
        rfl
      · rw [if_neg hc]
  | @moveCustomer i k n r s a hr hs ha =>
      rcases hsound.customer_self hr with ⟨hid, hself⟩
      rw [afterMove_eq hsound.filed.baskets (hsound.store_self hs).2]
      unfold Shop.seenOf Operation.sees
      dsimp only
      rw [Keyed.get?_adjust, hid]
      by_cases hc : c = i
      · rw [if_pos hc, hc, hr, beq_self_eq_true, Bool.or_true]
        rfl
      · rw [if_neg hc, beq_false_of_ne fun he => hc (Option.some.inj he).symm, Bool.or_false]
  | closeStore hs =>
      refine hsame ?_
      unfold Shop.seenOf without
      dsimp only
      rw [Keyed.get?_mapValues, Option.any_map]
      refine congrArg (fun f => (shop.customers.get? c).any f) (funext fun r => ?_)
      split <;> rfl
  | assignBasket hr hq _ _ _ =>
      refine hsame ?_
      rw [afterAssign_eq (hsound.basket_self hq).2 (hsound.placed.spot_store hr)]
      unfold Shop.seenOf
      dsimp only
      rw [Keyed.get?_adjust]
      split
      · exact Option.any_map ..
      · rfl
  | _ => exact hsame rfl

/-- Where a customer is after operations that succeeded, one after the other. -/
theorem Trace.spotOf {deeds : List Deed} (h : Trace shop deeds shop') (hsound : shop.Sound)
    (c : String) :
    shop'.spotOf c =
      (deeds.map Deed.op).foldl (fun spot op => op.leads c spot) (shop.spotOf c) :=
  h.foldl (fun shop => shop.spotOf c) (fun hstep hsound => hstep.spotOf hsound c)
    (fun spot _ hop => (leads_of_countsUnits hop c spot).1) hsound

/-- Who was seen after operations that succeeded, one after the other. -/
theorem Trace.seenOf {deeds : List Deed} (h : Trace shop deeds shop') (hsound : shop.Sound)
    (c : String) :
    shop'.seenOf c = (shop.seenOf c || (deeds.map Deed.op).any fun op => op.sees c) := by
  induction h with
  | nil _ => exact (Bool.or_false _).symm
  | cons hstep _ ih =>
      rw [ih (hstep.sound hsound), hstep.seenOf hsound, List.map_cons, List.any_cons, Bool.or_assoc]
  | unlogged hstep hop _ ih =>
      rw [ih (hstep.sound hsound), hstep.seenOf hsound, (leads_of_countsUnits hop c none).2,
        Bool.or_false]

/-- Where customers stand is told by the history of the run. A customer stands in an aisle exactly
    if their last walk was there and the store has not closed since, whether or not it has opened
    again; otherwise they stand nowhere. They were seen exactly if they ever walked. -/
theorem spot_of_last_walk {calls : List (Option String × Operation)} {c : String} {r : Customer}
    (hr : (Shop.runAll .empty calls).customers.get? c = some r) :
    (∀ spot, r.spot = some spot ↔ LedTo c (done .empty calls) spot) ∧
    ((∀ spot, ¬ LedTo c (done .empty calls) spot) → r.spot = none) ∧
    (r.seen = true ↔ ∃ store number, .updateCustomer (some c) store number ∈ done .empty calls) := by
  have htrace := sound_empty.trace calls
  have hspot := htrace.spotOf sound_empty c
  have hseen := htrace.seenOf sound_empty c
  rw [spotOf_of_get? hr] at hspot
  rw [seenOf_of_get? hr] at hseen
  have hled : ∀ spot, r.spot = some spot ↔ LedTo c (done .empty calls) spot := fun spot => by
    rw [hspot]
    exact foldl_leads_eq_some_iff c _ spot
  refine ⟨hled, fun hno => ?_, ?_⟩
  · exact Option.eq_none_iff_forall_ne_some.2 fun spot hat => hno spot ((hled spot).1 hat)
  · have hnobody : Shop.empty.seenOf c = false := rfl
    rw [hseen, hnobody, Bool.false_or, List.any_eq_true]
    constructor
    · rintro ⟨op, hop, hsees⟩
      cases op with
      | updateCustomer id store number =>
          rw [← beq_iff_eq.1 hsees]
          exact ⟨store, number, hop⟩
      | _ => cases hsees
    · rintro ⟨store, number, hop⟩
      exact ⟨_, hop, beq_self_eq_true _⟩

example :
    let ask op := (some "key", op)
    (Shop.runAll .empty (morning ++ [ask (.deleteStore (some "north")),
      ask (.provisionStore (some "north") (some "North Gate") (some "1 Gate Road")),
      ask (.provisionAisle (some "north") (some "1") (some "Bread") none none)])).spotOf "ada" =
        none := by decide +kernel

/-- In the morning a customer walks to an aisle, and it is there that she stands. -/
theorem spot_after_morning :
    ∃ r, (Shop.runAll .empty morning).customers.get? "ada" = some r ∧
      r.spot = some ⟨"north", "1"⟩ ∧ r.seen = true := by
  have hregistered : ((Shop.runAll .empty morning).customers.get? "ada").isSome = true := by
    decide +kernel
  rcases Option.isSome_iff_exists.1 hregistered with ⟨r, hr⟩
  have hdone : done .empty morning = morning.map Prod.snd := by decide +kernel
  have h := spot_of_last_walk hr
  rw [hdone] at h
  have hled : LedTo "ada" (morning.map Prod.snd) ⟨"north", "1"⟩ := by
    -- Only the basket is filled after the walk.
    refine ⟨(morning.map Prod.snd).take 9, (morning.map Prod.snd).drop 10, ?_, fun _ _ => ?_, ?_⟩
    · decide +kernel
    · simp [morning]
    · decide +kernel
  exact ⟨r, hr, (h.1 _).2 hled, h.2.2.2 ⟨some "north", some "1", by decide +kernel⟩⟩

end Shop

end Shopfloor
