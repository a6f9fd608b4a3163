import Shopfloor.Proofs.Bench.Keeping
import Shopfloor.Proofs.Keyed.Lookup
/-!
# Inventories and Baskets of a Shop on the Bench

An inventory and a basket are kept twice: as records of a shop, and as loose records
whose fields may hold anything. A loose record that has the fields of one of a shop
does the same as that one whenever it is asked for a whole number of units. It
answers with the same amount or fails in the same words, a number too long to be
written included, and afterwards it has the fields of what the other has become.

So the two stay together through any run of calls, and what is known of the records
of a shop is known of the loose ones as well, as long as nobody writes their fields.

## Main definitions

* `Entries.ofLines`: The lines of a basket as a loose map.
* `Card.IsInventory`, `Card.IsBasket`: A loose record has the fields of one of a shop.
* `Bench.Agrees`: A loose record answers as one of a shop does.
* `Packing`: Units of a product are put in or taken out.

## Theorems

* `find?_ofLines`, `insert_ofLines`, `erase_ofLines`: Loose lines show and become what lines do.
* `IsInventory.adjust`: A change of a count.
* `IsBasket.addProduct`, `IsBasket.removeProduct`: Units that are put in and taken out.
* `callAll_agrees`: Records that agree call by call stay together through a run.
* `callAll_isInventory`, `callAll_isBasket`: Inventories and baskets do.
-/

namespace Shopfloor

namespace Entries

/-- The lines of a basket as a loose map. -/
def ofLines (m : Keyed Int) : Entries Value :=
  m.entries.map fun e => (.text e.1, .whole e.2)

theorem find?_ofLines (m : Keyed Int) (p : String) :
    (ofLines m).find? (.text p) = (m.get? p).map .whole := by
  unfold ofLines Keyed.get?
  induction m.entries with
  | nil => rfl
  | cons e l ih =>
      rw [List.map_cons, find?_cons, ih, List.lookup_cons]
      by_cases h : e.1 = p
      · rw [beq_iff_eq.2 h.symm]
        exact if_pos (congrArg some h)
      · rw [beq_eq_false_iff_ne.2 (Ne.symm h)]
        exact if_neg fun hp => h (Option.some.inj hp)

theorem insert_ofLines (m : Keyed Int) (p : String) (n : Int) :
    (ofLines m).insert (.text p) (.whole n) = ofLines (m.insert p n) := by
  unfold insert Keyed.insert
  rw [find?_ofLines, Option.isSome_map]
  by_cases h : m.get? p = none
  · rw [dif_pos h, if_neg (Option.not_isSome_iff_eq_none.2 h)]
    unfold ofLines Keyed.append
    rw [List.map_append]
    rfl
  · rw [dif_neg h, if_pos (Option.isSome_iff_ne_none.2 h)]
    unfold ofLines Keyed.adjust Keyed.mapValues
    rw [List.map_map, List.map_map]
    refine List.map_congr_left fun e _ => ?_
    change (if (Atom.text p).agrees (.text e.1) then (Atom.text e.1, Value.whole n)
      else (Atom.text e.1, Value.whole e.2)) = (Atom.text e.1, .whole (if e.1 = p then n else e.2))
    by_cases hp : e.1 = p
    · rw [if_pos hp]
      exact if_pos (beq_iff_eq.2 hp.symm)
    · rw [if_neg hp]
      exact if_neg fun h => hp (beq_iff_eq.1 h).symm

theorem erase_ofLines (m : Keyed Int) (p : String) :
    (ofLines m).erase (.text p) = ofLines (m.erase p) := by
  unfold erase ofLines Keyed.erase Keyed.filter
  rw [List.filter_map]
  -- The two sides compare keys in opposite order.
  refine congrArg _ (List.filter_congr fun e _ => ?_)
  change (!(p == e.1)) = !(e.1 == p)
  rw [Bool.beq_comm]

end Entries

/-- A loose record is an inventory and has its id, its count and its capacity. -/
structure Card.IsInventory (c : Card) (i : Inventory) : Prop
    extends c.Counts i.count i.capacity where
  id : c.get? "id" = some (.text i.id)

/-- A loose record is a basket and has its id and its lines. -/
structure Card.IsBasket (c : Card) (s : Basket) : Prop where
  kind : c.kind = .basket
  id : c.get? "id" = some (.text s.id)
  products : c.get? "products" = some (.map (Entries.ofLines s.lines))

namespace Bench

/-- A loose record answers as a record of a shop does: in the same words if that one refuses, and
    else with an amount of what that one becomes and as a record that is like it. -/
inductive Agrees {α : Type} (alike : Card → α → Prop) (amount : α → Int) :
    Response → Except Fault α → Prop
  | ok {c : Card} {a : α} {n : Int} : alike c a → amount a = n →
    Agrees alike amount (.ok (.whole n, c)) (.ok a)
  | error (fault : Fault) : Agrees alike amount (.error (ofFault fault)) (.error fault)

variable {α : Type} {b : Bench}

theorem Agrees.of_eq {alike : Card → α → Prop} {amount : α → Int} {r : Response} {fault : Fault}
    (h : r = .error (ofFault fault)) : Agrees alike amount r (.error fault) :=
  h ▸ .error fault

/-! ### Words -/

theorem words_atom (b : Bench) (a : Atom) : b.words (.atom a) = a.words.mapError .badValue := rfl

theorem words_text_bind (s : String) (f : String → Except Mishap α) :
    (b.words (.text s) >>= f) = f s :=
  rfl

/-- A whole number is told in digits, or else its words are not to be had. -/
theorem words_whole_bind (n : Int) (f : String → Except Mishap α) :
    (b.words (.whole n) >>= f) =
      if Number.writable n then f (toString n) else .error (.badValue .longNumber) := by
  rw [Value.whole, words_atom, Atom.words, Atom.digits]
  by_cases h : Number.writable n
  · rw [if_pos h, if_pos h]
    rfl
  · rw [if_neg h, if_neg h]
    rfl

theorem change_whole_bind (n : Int) (f : String → Except Mishap α) :
    ((Value.whole n).tell.change >>= f) =
      if Number.writable n then f (Number.signed n) else .error (.badValue .longNumber) := by
  have hamount : (Value.whole n).tell.value.amount? = some (.whole n) := rfl
  rw [Told.change, hamount]
  dsimp only
  by_cases h : Number.writable n
  · rw [if_pos h, if_pos h]
    rfl
  · rw [if_neg h, if_neg h]
    rfl

theorem wordsOf_id_bind {c : Card} {field id : String} (h : c.get? field = some (.text id))
    (f : String → Except Mishap α) : (b.wordsOf c field >>= f) = f id := by
  unfold wordsOf
  rw [h]
  rfl

/-- An action that fails for a cause ends in the words for it, or in the number that has none. -/
theorem error_fault (action : String) (cause : Cause) :
    (.error (ofFault (cause.fault action)) : Except Mishap α) =
      if cause.isWritable then .error (.failed (cause.report action))
      else .error (.badValue .longNumber) := by
  unfold Cause.fault
  by_cases h : cause.isWritable
  · rw [if_pos h, if_pos h]
    rfl
  · rw [if_neg h, if_neg h]
    rfl

end Bench

open Bench

namespace Card

variable {b : Bench} {c : Card}

/-- An inventory with another count. -/
theorem IsInventory.put {i : Inventory} (hc : c.IsInventory i) (count : Int) :
    (c.put "count" (.whole count)).IsInventory { i with count := count } := by
  refine ⟨⟨hc.kind, ?_, ?_⟩, ?_⟩
  · rw [get?_put, if_pos rfl, hc.count]
    rfl
  · rw [get?_put, if_neg (by decide), hc.capacity]
  · rw [get?_put, if_neg (by decide), hc.id]

/-- A basket with other lines. -/
theorem IsBasket.put {s : Basket} (hc : c.IsBasket s) (lines : Keyed Int) :
    (c.put "products" (.map (Entries.ofLines lines))).IsBasket { s with lines := lines } := by
  refine ⟨hc.kind, ?_, ?_⟩
  · rw [get?_put, if_neg (by decide), hc.id]
  · rw [get?_put, if_pos rfl, hc.products]
    rfl

theorem IsInventory.adjust {i : Inventory} (hc : c.IsInventory i) (delta : Int) (action : String) :
    Agrees IsInventory Inventory.count (b.adjust c (.whole delta) (.text action))
      (i.change delta action) := by
  unfold Bench.adjust Inventory.change
  rw [hc.count, hc.capacity]
  change Agrees _ _ (if (Amount.whole (i.count + delta)).less (.whole 0) then _
    else if (Amount.whole i.capacity).less (.whole (i.count + delta)) then _ else _) _
  by_cases hzero : i.count + delta < 0
  · rw [if_pos ((Amount.less_whole _ _).2 hzero), if_pos hzero]
    refine Agrees.of_eq ?_
    -- A loose record looks for its words one after the other, and the other for all at once.
    rw [wordsOf_id_bind hc.id, words_whole_bind, change_whole_bind, error_fault, ← ite_and]
    exact if_congr (by simp [Cause.isWritable, Cause.numbers]) rfl rfl
  · rw [if_neg fun h => hzero ((Amount.less_whole _ _).1 h), if_neg hzero]
    by_cases hlimit : i.capacity < i.count + delta
    · rw [if_pos ((Amount.less_whole _ _).2 hlimit), if_pos hlimit]
      refine Agrees.of_eq ?_
      rw [wordsOf_id_bind hc.id, words_whole_bind, change_whole_bind, words_whole_bind, error_fault,
        ← ite_and, ← ite_and]
      exact if_congr (by simp [Cause.isWritable, Cause.numbers, and_assoc]) rfl rfl
    · rw [if_neg fun h => hlimit ((Amount.less_whole _ _).1 h), if_neg hlimit]
      exact .ok (hc.put (i.count + delta)) rfl

/-- How many units a basket has of a product whose line was written. -/
theorem quantity_insert (s : Basket) (p : String) (n : Int) :
    Basket.quantity { s with lines := s.lines.insert p n } p = n := by
  unfold Basket.quantity
  rw [Keyed.get?_insert_self]
  rfl

/-- How many units a basket has of a product whose line was removed. -/
theorem quantity_erase (s : Basket) (p : String) :
    Basket.quantity { s with lines := s.lines.erase p } p = 0 := by
  unfold Basket.quantity
  rw [Keyed.get?_erase_self]
  rfl

theorem IsBasket.addProduct {s : Basket} (hc : c.IsBasket s) (p : String) (q : Int) :
    Agrees IsBasket (fun s => s.quantity p) (b.addProduct c (.text p) (.whole q)) (s.add p q) := by
  unfold Bench.addProduct Basket.add
  change Agrees _ _ (if isSpent (.whole q) then _ else _) _
  -- Whether a quantity is used up is asked before the lines are looked at.
  by_cases hq : q ≤ 0
  · rw [if_pos ((isSpent_whole_iff q).2 hq), if_pos hq]
    refine Agrees.of_eq ?_
    rw [words_whole_bind, error_fault]
    exact if_congr (by simp [Cause.isWritable, Cause.numbers]) rfl rfl
  · rw [if_neg fun h => hq ((isSpent_whole_iff q).1 h), if_neg hq]
    unfold mapOf
    rw [hc.products]
    change Agrees _ _
      (amountOf (((Entries.ofLines s.lines).find? (.text p)).getD (.whole 0)) >>= _) _
    rw [Entries.find?_ofLines]
    have hheld : amountOf (((s.lines.get? p).map Value.whole).getD (.whole 0)) =
        .ok (.whole (s.quantity p)) := by
      unfold Basket.quantity
      cases s.lines.get? p with
      | none => rfl
      | some n => rfl
    rw [hheld]
    change Agrees _ _ (.ok (.whole (s.quantity p + q), c.put "products"
      (.map ((Entries.ofLines s.lines).insert (.text p) (.whole (s.quantity p + q)))))) _
    rw [Entries.insert_ofLines]
    exact .ok (hc.put _) (quantity_insert s p (s.quantity p + q))

theorem IsBasket.removeProduct {s : Basket} (hc : c.IsBasket s) (p : String) (q : Int) :
    Agrees IsBasket (fun s => s.quantity p) (b.removeProduct c (.text p) (.whole q))
      (s.remove p q) := by
  unfold Bench.removeProduct Basket.remove mapOf
  rw [hc.products]
  change Agrees _ _ (if (((Entries.ofLines s.lines).find? (.text p)).getD .null).isNull then _
    else _) _
  rw [Entries.find?_ofLines]
  cases s.lines.get? p with
  | none =>
      refine Agrees.of_eq ?_
      have hnull : ((none.map Value.whole).getD .null).isNull = true := rfl
      rw [if_pos hnull, words_text_bind, wordsOf_id_bind hc.id]
      rfl
  | some held =>
      change Agrees _ _ (if isSpent (.whole q) || (Amount.whole held).less (.whole q) then _ else _)
        (if q ≤ 0 ∨ held < q then _ else _)
      have hrefused : (isSpent (.whole q) || (Amount.whole held).less (.whole q)) = true ↔
          q ≤ 0 ∨ held < q := by
        rw [Bool.or_eq_true, isSpent_whole_iff, Amount.less_whole]
      by_cases hq : q ≤ 0 ∨ held < q
      · rw [if_pos (hrefused.2 hq), if_pos hq]
        refine Agrees.of_eq ?_
        change (b.words (.whole q) >>= fun quantity => b.words (.text p) >>= fun product =>
          b.words (.whole held) >>= fun held => invalid "Remove Basket Product"
            (invalidQuantityText quantity product held)) = _
        rw [words_whole_bind, words_text_bind, words_whole_bind, error_fault, ← ite_and]
        exact if_congr (by simp [Cause.isWritable, Cause.numbers]) rfl rfl
      · rw [if_neg fun h => hq (hrefused.1 h), if_neg hq]
        change Agrees _ _ (.ok (.whole (held - q), c.put "products" (.map
          (if (Amount.whole (held - q)).isZero then _ else _)))) _
        -- A line of which nothing is left goes, in both records.
        by_cases hzero : held - q = 0
        · rw [if_pos ((Amount.isZero_whole _).2 hzero), if_pos hzero, Entries.erase_ofLines, hzero]
          exact .ok (hc.put _) (quantity_erase s p)
        · rw [if_neg fun h => hzero ((Amount.isZero_whole _).1 h), if_neg hzero]
          change Agrees _ _ (.ok (.whole (held - q), c.put "products" (.map
            ((Entries.ofLines s.lines).insert (.text p) (.whole (held - q)))))) _
          rw [Entries.insert_ofLines]
          exact .ok (hc.put _) (quantity_insert s p (held - q))

end Card

/-! ### A run of calls -/

/-- Units of a product that are put into a basket or taken out of one. -/
inductive Packing
  | putIn (product : String) (quantity : Int)
  | takeOut (product : String) (quantity : Int)
deriving DecidableEq, Repr

namespace Packing

/-- What a loose record is asked for. -/
def method : Packing → Method
  | putIn p q => .addProduct (.text p) (.whole q)
  | takeOut p q => .removeProduct (.text p) (.whole q)

/-- What a basket of a shop does. -/
def act (s : Basket) : Packing → Except Fault Basket
  | putIn p q => s.add p q
  | takeOut p q => s.remove p q

/-- The product that goes in or out. -/
def product : Packing → String
  | putIn p _ | takeOut p _ => p

end Packing

/-- What becomes of a record of a shop in a run of calls. A call that fails changes nothing. -/
def actAll {α ι : Type} (act : α → ι → Except Fault α) (a : α) (calls : List ι) : α :=
  calls.foldl (fun a call => (act a call).toOption.getD a) a

namespace Bench

variable {α ι : Type} {alike : Card → α → Prop} {method : ι → Method}
  {act : α → ι → Except Fault α} {b : Bench} {handle : String} {c : Card}

/-- What answers as a record of a shop does is like what that one becomes. -/
theorem Agrees.after {f : α → Int} {r : Response} {x : Except Fault α} (h : Agrees alike f r x)
    {a : α} (ha : alike c a) :
    alike ((r.map Prod.snd).toOption.getD c) (x.toOption.getD a) := by
  cases h with
  | ok hc _ => exact hc
  | error fault => exact ha

/-- A loose record that agrees with one of a shop call by call is like it after any run of calls. -/
theorem callAll_agrees (amount : ι → α → Int)
    (hstep : ∀ (b : Bench) (c : Card) (a : α) (call : ι), alike c a →
      Agrees alike (amount call) (b.ask c (method call)) (act a call))
    (hcard : b.card? handle = some c) {a : α} (ha : alike c a) (calls : List ι) :
    ∃ c', (b.callAll handle (calls.map method)).card? handle = some c' ∧
      alike c' (actAll act a calls) := by
  induction calls generalizing b c a with
  | nil => exact ⟨c, hcard, ha⟩
  -- A call that fails leaves both as they were, so no call need succeed.
  | cons call calls ih => exact ih (card?_after hcard _) ((hstep b c a call ha).after ha)

/-- An inventory stays what it is in a shop through any run of changes of its count. -/
theorem callAll_isInventory {i : Inventory} (hcard : b.card? handle = some c)
    (hc : c.IsInventory i) (changes : List (Int × String)) :
    ∃ c', (b.callAll handle
        (changes.map fun d => .adjust (.whole d.1) (.text d.2))).card? handle = some c' ∧
      c'.IsInventory (actAll (fun i d => i.change d.1 d.2) i changes) := by
  refine callAll_agrees (fun _ i => i.count) (fun b c i d hc => ?_) hcard hc changes
  unfold ask
  rw [hc.kind]
  exact hc.adjust d.1 d.2

/-- A basket stays what it is in a shop through any run of units put in and taken out. -/
theorem callAll_isBasket {s : Basket} (hcard : b.card? handle = some c) (hc : c.IsBasket s)
    (packings : List Packing) :
    ∃ c', (b.callAll handle (packings.map Packing.method)).card? handle = some c' ∧
      c'.IsBasket (actAll Packing.act s packings) := by
  refine callAll_agrees (fun packing s => s.quantity packing.product)
    (fun b c s packing hc => ?_) hcard hc packings
  unfold ask
  rw [hc.kind]
  cases packing with
  | putIn p q => exact hc.addProduct p q
  | takeOut p q => exact hc.removeProduct p q

end Bench

end Shopfloor
