import Mathlib.Logic.Relation
import Shopfloor.Proofs.Bench.Entries
import Shopfloor.Proofs.Bench.Form
/-!
# What Records Keep to on Their Own

Counts of an inventory and lines of a basket, without a shop that looks after
them.

A record on the bench is made from whatever its forms take, and then it is asked
for one thing after the other. Of a count it is known that it never falls below
zero, for its form says so and every change of it is checked. That it stays within
the capacity is checked with every change as well, but when the record is made
nothing compares the two. So a count may lie above the capacity from the start. It
lies there until the first change that succeeds, and never again afterwards.

It is the same with the lines of a basket. What goes in is checked to be positive
and what comes out is checked to be there, but a line may be below one from the
start. Such a line can only grow, and once it has come to one it is like any other.

## Main definitions

* `Card.Counts`, `Card.Lines`: The count of an inventory, and the lines of a basket.
* `Method.Adjusts`, `Method.Packs`: Changes of a count, and units put in and taken out.
* `Entries.Positive`, `Entries.Follows`: Lines that are positive, and lines that come out of others.
* `Bench.callAll`, `Card.Asked`: One call after the other, and what a record becomes in one.
* `Bench.KeepsCount`, `Bench.KeepsLines`: What is kept from a point on.

## Theorems

* `Counts.adjust`, `Lines.addProduct`, `Lines.removeProduct`: What one call does.
* `callAll_asked`: What becomes of a record in a run of calls.
* `Counts.asked`, `Lines.asked`: What a run of calls does.
* `kept_from_then_on`: What is known of a record at one point is kept at every later one.
-/

namespace Shopfloor

/-! ### What one call does -/

/-- A record counts: it is an inventory with a whole number as its count and as its capacity. -/
structure Card.Counts (c : Card) (count capacity : Int) : Prop where
  kind : c.kind = .inventory
  count : c.get? "count" = some (.whole count)
  capacity : c.get? "capacity" = some (.whole capacity)

/-- A record carries lines: it is a basket, and each of them is a whole number. -/
structure Card.Lines (c : Card) (lines : Entries Value) : Prop where
  kind : c.kind = .basket
  products : c.get? "products" = some (.map lines)
  whole : ∀ e ∈ lines, ∃ n, e.2 = .whole n

/-- A change of a count by a number that is no binary one. -/
def Method.Adjusts : Method → Prop
  | .adjust delta _ => delta.NotBinary
  | _ => False

/-- Units of a product, told by a number that is no binary one, are put in or taken out. -/
def Method.Packs : Method → Prop
  | .addProduct product quantity | .removeProduct product quantity =>
    (∃ p, product = .text p) ∧ quantity.NotBinary
  | _ => False

/-- All lines are positive. -/
def Entries.Positive (lines : Entries Value) : Prop := ∀ e ∈ lines, ∃ n, 1 ≤ n ∧ e.2 = .whole n

/-- Lines that come out of others by what is put in and taken out. They are positive if the others
    were, and one that is not positive has grown from what it was. -/
structure Entries.Follows (after before : Entries Value) : Prop where
  positive : before.Positive → after.Positive
  grown : ∀ p n, after.find? (.text p) = some (.whole n) →
    1 ≤ n ∨ ∃ m, m ≤ n ∧ before.find? (.text p) = some (.whole m)

theorem Value.whole_inj {n m : Int} (h : whole n = whole m) : n = m := by
  cases h
  rfl

namespace Entries

/-- If the lines are positive, so is one that is found among them. -/
theorem Positive.of_find? {lines : Entries Value} (h : lines.Positive) {k : Atom} {n : Int}
    (hn : lines.find? k = some (.whole n)) : 1 ≤ n := by
  rcases mem_of_find? hn with ⟨e, he, hwhole⟩
  rcases h e he with ⟨m, hm, hwhole'⟩
  rw [Value.whole_inj (hwhole.symm.trans hwhole')]
  exact hm

theorem Follows.refl (lines : Entries Value) : lines.Follows lines :=
  ⟨id, fun _ n h => Or.inr ⟨n, Int.le_refl n, h⟩⟩

theorem Follows.trans {one two three : Entries Value} (h : three.Follows two)
    (h' : two.Follows one) : three.Follows one := by
  refine ⟨h.positive ∘ h'.positive, fun p n hn => ?_⟩
  rcases h.grown p n hn with hone | ⟨m, hm, hfind⟩
  · exact Or.inl hone
  · rcases h'.grown p m hfind with hone | ⟨l, hl, hfind⟩
    · exact Or.inl (Int.le_trans hone hm)
    · exact Or.inr ⟨l, Int.le_trans hl hm, hfind⟩

/-- A line was written that is positive or has grown. -/
theorem follows_insert {lines : Entries Value} {p : String} {n : Int}
    (h : 1 ≤ n ∨ ∃ m, m ≤ n ∧ lines.find? (.text p) = some (.whole m)) :
    (lines.insert (.text p) (.whole n)).Follows lines := by
  refine ⟨fun hpos e he => ?_, fun q k hk => ?_⟩
  · rcases of_mem_insert he with hval | he
    · rcases h with hn | ⟨m, hm, hfind⟩
      · exact ⟨n, hn, hval⟩
      · exact ⟨n, Int.le_trans (hpos.of_find? hfind) hm, hval⟩
    · exact hpos e he
  · rw [find?_insert_text] at hk
    split at hk
    · next hq =>
        rw [hq, ← Value.whole_inj (Option.some.inj hk)]
        exact h
    · exact (Follows.refl lines).grown q k hk

/-- A line was removed. -/
theorem follows_erase (lines : Entries Value) (p : String) :
    (lines.erase (.text p)).Follows lines := by
  refine ⟨fun hpos e he => hpos e (of_mem_erase he), fun q k hk => ?_⟩
  rw [find?_erase_text] at hk
  split at hk
  · cases hk
  · exact (Follows.refl lines).grown q k hk

end Entries

namespace Bench

theorem invalid_ne_ok {α : Type} {action reason : String} {a : α} :
    (invalid action reason : Except Mishap α) ≠ .ok a :=
  nofun

theorem isSpent_whole_iff (n : Int) : isSpent (.whole n) = true ↔ n ≤ 0 := by
  rw [isSpent, Bool.or_eq_true, Amount.less_whole, Amount.isZero_whole]
  omega

end Bench

open Bench

namespace Card

variable {b : Bench} {c c' : Card} {answer : Value}

/-- A count that was changed is not below zero and fits the capacity. -/
theorem Counts.adjust {count capacity : Int} (hc : c.Counts count capacity) {delta action : Value}
    (hdelta : delta.NotBinary) (h : b.adjust c delta action = .ok (answer, c')) :
    ∃ new, c'.Counts new capacity ∧ 0 ≤ new ∧ new ≤ capacity := by
  unfold Bench.adjust at h
  rw [hc.count, hc.capacity] at h
  -- All that goes into the new count is whole, so it is the sum of whole numbers.
  rcases bind_eq_ok_iff.1 h with ⟨_, ⟨⟩, h⟩
  rcases bind_eq_ok_iff.1 h with ⟨_, ⟨⟩, h⟩
  rcases bind_eq_ok_iff.1 h with ⟨_, ⟨⟩, h⟩
  rcases bind_eq_ok_iff.1 h with ⟨a, ha, h⟩
  rcases hdelta.amount ha with ⟨n, rfl⟩
  rcases bind_eq_ok_iff.1 h with ⟨_, ⟨⟩, h⟩
  split at h
  · -- The words for a refusal may fail themselves, but they never come to an answer.
    exact absurd h (bind_ne_ok fun _ => bind_ne_ok fun _ => bind_ne_ok fun _ => bind_ne_ok fun _ =>
      invalid_ne_ok)
  · next hzero =>
      rcases bind_eq_ok_iff.1 h with ⟨_, ⟨⟩, h⟩
      split at h
      · exact absurd h (bind_ne_ok fun _ => bind_ne_ok fun _ => bind_ne_ok fun _ =>
          bind_ne_ok fun _ => bind_ne_ok fun _ => invalid_ne_ok)
      · next hlimit =>
          cases h
          rw [Amount.less_whole, Int.not_lt] at hzero hlimit
          refine ⟨count + n, ⟨hc.kind, ?_, ?_⟩, hzero, hlimit⟩
          · rw [get?_put, if_pos rfl, hc.count]
            rfl
          · rw [get?_put, if_neg (by decide), hc.capacity]

theorem Lines.put {lines after : Entries Value} (hc : c.Lines lines)
    (h : ∀ e ∈ after, ∃ n, e.2 = .whole n) : (c.put "products" (.map after)).Lines after := by
  refine ⟨hc.kind, ?_, h⟩
  rw [get?_put, if_pos rfl, hc.products]
  rfl

/-- Lines with one of them written. -/
theorem Lines.insert {lines : Entries Value} (hc : c.Lines lines) (k : Atom) (n : Int) :
    (c.put "products" (.map (lines.insert k (.whole n)))).Lines (lines.insert k (.whole n)) := by
  refine hc.put fun e he => ?_
  rcases Entries.of_mem_insert he with hval | he
  · exact ⟨n, hval⟩
  · exact hc.whole e he

theorem Lines.find? {lines : Entries Value} (hc : c.Lines lines) {k : Atom} {v : Value}
    (h : lines.find? k = some v) : ∃ n, v = .whole n := by
  rcases Entries.mem_of_find? h with ⟨e, he, rfl⟩
  exact hc.whole e he

/-- Units that were put in are more than none, and they come on top of what was there. -/
theorem Lines.addProduct {lines : Entries Value} (hc : c.Lines lines) {p : String} {quantity : Value}
    (hquantity : quantity.NotBinary) (h : b.addProduct c (.text p) quantity = .ok (answer, c')) :
    ∃ after, c'.Lines after ∧ after.Follows lines := by
  unfold Bench.addProduct at h
  rw [mapOf, hc.products] at h
  rcases bind_eq_ok_iff.1 h with ⟨a, ha, h⟩
  rcases hquantity.amount ha with ⟨n, rfl⟩
  split at h
  · exact absurd h (bind_ne_ok fun _ => invalid_ne_ok)
  · next hspent =>
      have hn : 1 ≤ n := Int.not_le.1 fun hn => hspent ((isSpent_whole_iff n).2 hn)
      rcases bind_eq_ok_iff.1 h with ⟨_, ⟨⟩, h⟩
      rcases bind_eq_ok_iff.1 h with ⟨_, ⟨⟩, h⟩
      cases hfind : lines.find? (.text p) with
      | none =>
          rw [hfind] at h
          cases h
          -- A new line begins with what is put in.
          have hnew : 1 ≤ 0 + n := by omega
          exact ⟨_, hc.insert (.text p) (0 + n), Entries.follows_insert (Or.inl hnew)⟩
      | some v =>
          -- The line may not be positive, but it grows.
          rcases hc.find? hfind with ⟨m, rfl⟩
          rw [hfind] at h
          cases h
          have hgrown : m ≤ m + n := by omega
          exact ⟨_, hc.insert (.text p) (m + n), Entries.follows_insert (Or.inr ⟨m, hgrown, hfind⟩)⟩

/-- Units that were taken out had been there, and a line that runs out is gone. -/
theorem Lines.removeProduct {lines : Entries Value} (hc : c.Lines lines) {p : String}
    {quantity : Value} (hquantity : quantity.NotBinary)
    (h : b.removeProduct c (.text p) quantity = .ok (answer, c')) :
    ∃ after, c'.Lines after ∧ after.Follows lines := by
  unfold Bench.removeProduct at h
  rw [mapOf, hc.products] at h
  rcases bind_eq_ok_iff.1 h with ⟨_, ⟨⟩, h⟩
  rcases bind_eq_ok_iff.1 h with ⟨_, ⟨⟩, h⟩
  cases hfind : lines.find? (.text p) with
  | none =>
      rw [hfind] at h
      exact absurd h (bind_ne_ok fun _ => bind_ne_ok fun _ => nofun)
  | some v =>
      rcases hc.find? hfind with ⟨m, rfl⟩
      rw [hfind] at h
      rcases bind_eq_ok_iff.1 h with ⟨a, ha, h⟩
      rcases hquantity.amount ha with ⟨n, rfl⟩
      rcases bind_eq_ok_iff.1 h with ⟨_, ⟨⟩, h⟩
      split at h
      · exact absurd h (bind_ne_ok fun _ => bind_ne_ok fun _ => bind_ne_ok fun _ => invalid_ne_ok)
      · next hspent =>
          rw [Bool.or_eq_true, not_or, isSpent_whole_iff, Amount.less_whole] at hspent
          rcases bind_eq_ok_iff.1 h with ⟨_, ⟨⟩, h⟩
          cases h
          -- At least one unit is taken out and no more than there are, so none are owed.
          by_cases hzero : (Amount.whole (m - n)).isZero = true
          · refine ⟨lines.erase (.text p), ?_, Entries.follows_erase lines p⟩
            rw [if_pos hzero]
            exact hc.put fun e he => hc.whole e (Entries.of_mem_erase he)
          · have hrest : 1 ≤ m - n := by
              rw [Amount.isZero_whole] at hzero
              omega
            refine ⟨lines.insert (.text p) (.whole (m - n)), ?_,
              Entries.follows_insert (Or.inl hrest)⟩
            rw [if_neg hzero]
            exact hc.insert (.text p) (m - n)

end Card

/-! ### What a run of calls does -/

namespace Bench

/-- The bench after a record was asked for something. A call that fails changes nothing. -/
def after (b : Bench) (handle : String) (m : Method) : Bench :=
  match b.call handle m with
  | .ok (_, b') => b'
  | .error _ => b

/-- The bench after a record was asked for one thing after the other. -/
def callAll (b : Bench) (handle : String) (ms : List Method) : Bench :=
  ms.foldl (fun b m => b.after handle m) b

end Bench

/-- A record becomes another when it is asked for something that is allowed. -/
def Card.Asked (allowed : Method → Prop) (c c' : Card) : Prop :=
  ∃ (b : Bench) (m : Method) (answer : Value), allowed m ∧ b.ask c m = .ok (answer, c')

namespace Bench

variable {b b' : Bench} {handle : String} {c : Card}

/-- The bench after a record was asked for something and became another. -/
def become (b : Bench) (r : Ref) (c : Card) : Bench := { b.put r c with clock := b.clock + 1 }

theorem card?_become {r : Ref} (hr : b.handles.get? handle = some r) (hrow : b.row[r]? = some c)
    (c' : Card) : (b.become r c').card? handle = some c' := by
  unfold card? become put
  rw [hr, Option.bind_some, List.getElem?_set_self (List.getElem?_eq_some_iff.1 hrow).1]

theorem call_eq {r : Ref} (hr : b.handles.get? handle = some r) (hrow : b.row[r]? = some c)
    (m : Method) : b.call handle m =
      (b.ask c m).map fun x => ((b.become r x.2).spread x.1, b.become r x.2) := by
  have hheld : b.held handle = .ok r := by
    rw [held, hr]
  have hat : b.at? r = .ok c := by
    rw [at?, hrow]
    rfl
  unfold call callRaw
  rw [hheld, ok_bind, hat, ok_bind]
  cases b.ask c m with
  | ok x => rfl
  | error mishap => rfl

theorem call_eq_ok {m : Method} {answer : Value} (hcard : b.card? handle = some c)
    (h : b.call handle m = .ok (answer, b')) :
    ∃ answer c', b.ask c m = .ok (answer, c') ∧ b'.card? handle = some c' := by
  rcases Option.bind_eq_some_iff.1 hcard with ⟨r, hr, hrow⟩
  rw [call_eq hr hrow] at h
  cases hask : b.ask c m with
  | ok x =>
      rw [hask] at h
      cases h
      exact ⟨x.1, x.2, rfl, card?_become hr hrow x.2⟩
  | error mishap =>
      rw [hask] at h
      cases h

/-- A record after it was asked for something: what it has become, or what it was if it fails. -/
theorem card?_after (hcard : b.card? handle = some c) (m : Method) :
    (b.after handle m).card? handle = some (((b.ask c m).map Prod.snd).toOption.getD c) := by
  rcases Option.bind_eq_some_iff.1 hcard with ⟨r, hr, hrow⟩
  unfold after
  rw [call_eq hr hrow]
  cases b.ask c m with
  | ok x => exact card?_become hr hrow x.2
  | error mishap => exact hcard

theorem after_asked {allowed : Method → Prop} {m : Method} (hm : allowed m)
    (hcard : b.card? handle = some c) :
    ∃ c', (b.after handle m).card? handle = some c' ∧
      Relation.ReflTransGen (Card.Asked allowed) c c' := by
  refine ⟨_, card?_after hcard m, ?_⟩
  cases hask : b.ask c m with
  | ok x => exact .single ⟨b, m, x.1, hm, hask⟩
  | error mishap => exact .refl

/-- What becomes of a record in a run of calls, each of which is allowed. -/
theorem callAll_asked {allowed : Method → Prop} {ms : List Method} (hms : ∀ m ∈ ms, allowed m)
    (hcard : b.card? handle = some c) :
    ∃ c', (b.callAll handle ms).card? handle = some c' ∧
      Relation.ReflTransGen (Card.Asked allowed) c c' := by
  induction ms generalizing b c with
  | nil => exact ⟨c, hcard, .refl⟩
  | cons m ms ih =>
      rw [List.forall_mem_cons] at hms
      rcases after_asked hms.1 hcard with ⟨c', hcard', hfirst⟩
      rcases ih hms.2 hcard' with ⟨c'', hcard'', hrest⟩
      exact ⟨c'', hcard'', hfirst.trans hrest⟩

end Bench

namespace Card

variable {c c' : Card}

theorem Counts.step {b : Bench} {m : Method} {answer : Value} {count capacity : Int}
    (hc : c.Counts count capacity) (hm : m.Adjusts) (h : b.ask c m = .ok (answer, c')) :
    ∃ new, c'.Counts new capacity ∧ 0 ≤ new ∧ new ≤ capacity := by
  unfold ask at h
  rw [hc.kind] at h
  cases m with
  | adjust delta action => exact hc.adjust hm h
  | _ => cases hm

theorem Lines.step {b : Bench} {m : Method} {answer : Value} {lines : Entries Value}
    (hc : c.Lines lines) (hm : m.Packs) (h : b.ask c m = .ok (answer, c')) :
    ∃ after, c'.Lines after ∧ after.Follows lines := by
  unfold ask at h
  rw [hc.kind] at h
  cases m with
  | addProduct product quantity =>
      rcases hm with ⟨⟨p, rfl⟩, hquantity⟩
      exact hc.addProduct hquantity h
  | removeProduct product quantity =>
      rcases hm with ⟨⟨p, rfl⟩, hquantity⟩
      exact hc.removeProduct hquantity h
  | _ => cases hm

/-- A count that was changed is not below zero and fits the capacity, and else it is as it was. -/
theorem Counts.asked {count capacity : Int} (hc : c.Counts count capacity)
    (h : Relation.ReflTransGen (Asked Method.Adjusts) c c') :
    ∃ new, c'.Counts new capacity ∧ (new = count ∨ 0 ≤ new ∧ new ≤ capacity) := by
  induction h with
  | refl => exact ⟨count, hc, Or.inl rfl⟩
  | tail _ hstep ih =>
      -- Whether the count fits before the last change does not matter.
      rcases ih with ⟨old, hold, -⟩
      rcases hstep with ⟨b, m, answer, hm, hask⟩
      rcases hold.step hm hask with ⟨new, hnew, hkept⟩
      exact ⟨new, hnew, Or.inr hkept⟩

/-- Lines come out of the lines that were there, and stay positive if they were. -/
theorem Lines.asked {lines : Entries Value} (hc : c.Lines lines)
    (h : Relation.ReflTransGen (Asked Method.Packs) c c') :
    ∃ after, c'.Lines after ∧ after.Follows lines := by
  induction h with
  | refl => exact ⟨lines, hc, .refl lines⟩
  | tail _ hstep ih =>
      rcases ih with ⟨old, hold, hfollows⟩
      rcases hstep with ⟨b, m, answer, hm, hask⟩
      rcases hold.step hm hask with ⟨after, hafter, hstep⟩
      exact ⟨after, hafter, hstep.trans hfollows⟩

end Card

/-! ### From the making on -/

/-- An inventory that was made counts, and neither number is below zero. -/
theorem Fields.Takes.counts {fields : List (String × Value)} (h : inventoryFields.Takes fields) :
    ∃ count capacity, Card.Counts ⟨.inventory, fields⟩ count capacity ∧
      0 ≤ count ∧ 0 ≤ capacity := by
  unfold inventoryFields at h
  rcases h with _ | ⟨-, _ | ⟨-, _ | ⟨hcapacity, _ | ⟨hcount, -⟩⟩⟩⟩
  cases hcapacity with
  | amount hcapacity =>
      cases hcount with
      | amount hcount => exact ⟨_, _, ⟨rfl, rfl, rfl⟩, hcount, hcapacity⟩

/-- A field that may be left out has what its form takes, or what stands there if it is. -/
theorem Fields.Takes.of_optional {name : String} {standard : Value} {form : Form} {rest : Fields}
    {fields : List (String × Value)} (h : (Fields.optional name standard form rest).Takes fields) :
    ∃ v fields', fields = (name, v) :: fields' ∧ (form.Takes v ∨ v = standard) ∧
      rest.Takes fields' := by
  cases h with
  | given hv hrest => exact ⟨_, _, rfl, Or.inl hv, hrest⟩
  | leftOut hrest => exact ⟨_, _, rfl, Or.inr rfl, hrest⟩

/-- A basket that was made has lines. -/
theorem Fields.Takes.lines {fields : List (String × Value)} (h : basketFields.Takes fields) :
    ∃ lines, Card.Lines ⟨.basket, fields⟩ lines := by
  unfold basketFields at h
  rcases h with _ | ⟨-, h⟩
  rcases h.of_optional with ⟨customer, _, rfl, -, h⟩
  rcases h.of_optional with ⟨store, _, rfl, -, h⟩
  rcases h.of_optional with ⟨products, _, rfl, hproducts, -⟩
  rcases hproducts with hproducts | rfl
  · cases hproducts with
    | mapOf _ hentries =>
        refine ⟨_, rfl, rfl, fun e he => ?_⟩
        cases e with
        | mk k v =>
            cases hentries _ he with
            | quantity n => exact ⟨n, rfl⟩
  · exact ⟨[], rfl, rfl, fun e he => absurd he List.not_mem_nil⟩

namespace Bench

/-- The count and the capacity of the inventory that a handle holds. -/
def Stocks (b : Bench) (handle : String) (count capacity : Int) : Prop :=
  ∃ c, b.card? handle = some c ∧ c.Counts count capacity

/-- The lines of the basket that a handle holds. -/
def Carries (b : Bench) (handle : String) (lines : Entries Value) : Prop :=
  ∃ c, b.card? handle = some c ∧ c.Lines lines

variable {b b' : Bench} {handle : String} {given : Entries Value} {v : Value}

theorem Stocks.callAll {count capacity : Int} (h : b.Stocks handle count capacity)
    {ms : List Method} (hms : ∀ m ∈ ms, m.Adjusts) :
    ∃ new, (b.callAll handle ms).Stocks handle new capacity ∧
      (new = count ∨ 0 ≤ new ∧ new ≤ capacity) := by
  rcases h with ⟨c, hcard, hc⟩
  rcases callAll_asked hms hcard with ⟨c', hcard', hasked⟩
  rcases hc.asked hasked with ⟨new, hnew, hkept⟩
  exact ⟨new, ⟨c', hcard', hnew⟩, hkept⟩

theorem Carries.callAll {lines : Entries Value} (h : b.Carries handle lines) {ms : List Method}
    (hms : ∀ m ∈ ms, m.Packs) :
    ∃ after, (b.callAll handle ms).Carries handle after ∧ after.Follows lines := by
  rcases h with ⟨c, hcard, hc⟩
  rcases callAll_asked hms hcard with ⟨c', hcard', hasked⟩
  rcases hc.asked hasked with ⟨after, hafter, hkept⟩
  exact ⟨after, ⟨c', hcard', hafter⟩, hkept⟩

/-- A change that succeeds leaves a count that is not below zero and fits the capacity. -/
theorem Stocks.call {count capacity : Int} (h : b.Stocks handle count capacity) {m : Method}
    (hm : m.Adjusts) (hcall : b.call handle m = .ok (v, b')) :
    ∃ new, b'.Stocks handle new capacity ∧ 0 ≤ new ∧ new ≤ capacity := by
  rcases h with ⟨c, hcard, hc⟩
  rcases call_eq_ok hcard hcall with ⟨answer, c', hask, hcard'⟩
  rcases hc.step hm hask with ⟨new, hnew, hkept⟩
  exact ⟨new, ⟨c', hcard', hnew⟩, hkept⟩

/-- The count of an inventory is kept from now on: it is not below zero, a run of changes leaves it
    as it is or within the capacity, and a change that succeeds leaves it within the capacity. -/
def KeepsCount (b : Bench) (handle : String) (capacity : Int) : Prop :=
  ∃ count, b.Stocks handle count capacity ∧ 0 ≤ count ∧
    (∀ ms : List Method, (∀ m ∈ ms, m.Adjusts) →
      ∃ new, (b.callAll handle ms).Stocks handle new capacity ∧
        (new = count ∨ 0 ≤ new ∧ new ≤ capacity)) ∧
    ∀ m : Method, m.Adjusts → ∀ answer b', b.call handle m = .ok (answer, b') →
      ∃ new, b'.Stocks handle new capacity ∧ 0 ≤ new ∧ new ≤ capacity

/-- The lines of a basket are kept from now on: after a run of units put in and taken out they are
    positive if they are now, and one that is not positive has grown from what it is now. -/
def KeepsLines (b : Bench) (handle : String) : Prop :=
  ∃ lines, b.Carries handle lines ∧ ∀ ms : List Method, (∀ m ∈ ms, m.Packs) →
    ∃ after, (b.callAll handle ms).Carries handle after ∧ after.Follows lines

section Making

variable {validate : Validator} (hlawful : validate.Lawful)
include hlawful

theorem make_stocks (h : b.makeBy validate handle .inventory given = .ok (v, b')) :
    ∃ count capacity, b'.Stocks handle count capacity ∧ 0 ≤ count ∧ 0 ≤ capacity := by
  rcases makeBy_eq_ok hlawful h with ⟨fields, htakes, hcard⟩
  rcases htakes.counts with ⟨count, capacity, hcounts, hbounds⟩
  exact ⟨count, capacity, ⟨_, hcard, hcounts⟩, hbounds⟩

theorem make_carries (h : b.makeBy validate handle .basket given = .ok (v, b')) :
    ∃ lines, b'.Carries handle lines := by
  rcases makeBy_eq_ok hlawful h with ⟨fields, htakes, hcard⟩
  rcases htakes.lines with ⟨lines, hlines⟩
  exact ⟨lines, _, hcard, hlines⟩

/-- From any point on a record keeps what is known of it there, as long as fields that are taken have
    what was declared of them. An inventory that was made has a capacity that is not below zero, and
    after each run of changes its count is kept. A basket that was made has its lines kept after each
    run of units put in and taken out. -/
theorem kept_from_then_on (b : Bench) (handle : String) (given : Entries Value) :
    (∀ v b', b.makeBy validate handle .inventory given = .ok (v, b') →
      ∃ capacity, 0 ≤ capacity ∧ ∀ ms : List Method, (∀ m ∈ ms, m.Adjusts) →
        (b'.callAll handle ms).KeepsCount handle capacity) ∧
    (∀ v b', b.makeBy validate handle .basket given = .ok (v, b') →
      ∀ ms : List Method, (∀ m ∈ ms, m.Packs) → (b'.callAll handle ms).KeepsLines handle) := by
  refine ⟨fun v b' h => ?_, fun v b' h ms hms => ?_⟩
  · rcases make_stocks hlawful h with ⟨first, capacity, hstocks, hfirst, hcapacity⟩
    refine ⟨capacity, hcapacity, fun ms hms => ?_⟩
    rcases hstocks.callAll hms with ⟨count, hcount, hkept⟩
    refine ⟨count, hcount, ?_, fun _ => hcount.callAll, fun _ hm _ _ => hcount.call hm⟩
    rcases hkept with rfl | ⟨hzero, -⟩
    · exact hfirst
    · exact hzero
  · rcases make_carries hlawful h with ⟨first, hcarries⟩
    rcases hcarries.callAll hms with ⟨lines, hlines, -⟩
    exact ⟨lines, hlines, fun _ => hlines.callAll⟩

end Making

/-- The fields of an inventory of ten units with room for five. -/
def overfull : Entries Value :=
  [(.text "id", .text "I"),
   (.text "location", .map [(.text "store_id", .text "S"), (.text "aisle_number", .text "1"),
     (.text "shelf_id", .text "a")]),
   (.text "capacity", .whole 5), (.text "count", .whole 10), (.text "product_id", .text "P")]

/-- The fields of a basket with a line of no units. -/
def emptyLine : Entries Value :=
  [(.text "id", .text "B"), (.text "products", .map [(.text "P", .whole 0)])]

/-- Seven units go out of an inventory that holds more than it has room for, and two are put into
    an empty line. -/
theorem kept_after_overfull :
    (∃ v b', empty.make "i" .inventory overfull = .ok (v, b') ∧ ∃ capacity, 0 ≤ capacity ∧
      (b'.callAll "i" [.adjust (.whole (-7)) Method.adjustAction]).KeepsCount "i" capacity) ∧
    ∃ v b', empty.make "b" .basket emptyLine = .ok (v, b') ∧
      (b'.callAll "b" [.addProduct (.text "P") (.whole 2)]).KeepsLines "b" := by
  refine ⟨⟨_, _, rfl, ?_⟩, ⟨_, _, rfl, ?_⟩⟩
  · rcases (kept_from_then_on check_lawful empty "i" overfull).1 _ _ rfl with
      ⟨capacity, hcapacity, hkept⟩
    refine ⟨capacity, hcapacity, hkept _ fun m hm => ?_⟩
    rw [List.mem_singleton.1 hm]
    exact fun x => nofun
  · refine (kept_from_then_on check_lawful empty "b" emptyLine).2 _ _ rfl _ fun m hm => ?_
    rw [List.mem_singleton.1 hm]
    exact ⟨⟨"P", rfl⟩, fun x => nofun⟩

/-- Nothing compares the count with the capacity when an inventory is made, and nothing asks
    whether a line of a basket is positive. -/
theorem made_out_of_bounds :
    (∃ v b', empty.make "i" .inventory overfull = .ok (v, b') ∧ b'.Stocks "i" 10 5) ∧
    ∃ v b', empty.make "b" .basket emptyLine = .ok (v, b') ∧
      b'.Carries "b" [(.text "P", .whole 0)] := by
  refine ⟨⟨_, _, rfl, _, rfl, rfl, rfl, rfl⟩, ⟨_, _, rfl, _, rfl, rfl, rfl, fun e he => ?_⟩⟩
  rw [List.mem_singleton.1 he]
  exact ⟨0, rfl⟩

end Bench

end Shopfloor
