import Shopfloor.Proofs.Provisioned
import Shopfloor.Proofs.Script.Simulation
import Shopfloor.Proofs.Script.Statement
/-!
# How Lines End

A line ends in an answer or in a failure, unless it has to name units in a
basket that are too many to be named.

A shop is `Scripted` if only lines have led to it. Such a shop is reachable and
its shelves are legible: a capacity is a number that some line has given, and
counts stay below capacities. Baskets are different. Units that were taken from
a shelf make room for more, so a basket can hold more than any line can say, and
a line that would have to say it ends in the one fault that is no failure.
`Statement.units` are the units that are at stake, told from the line and from
the shop before anything is done. If all of them can be written, so can every
number that the answer or the failure names.

## Main definitions

* `Script.Scripted`: Lines lead to a shop from the empty one.
* `Script.Asked`: An operation that some line asks for.
* `Script.Statement.units`: The units in baskets that a statement has to name.
* `Script.Statement.numbers`: The numbers that an answer names.
* `Script.Ends`: How a line ends that can be gone on after.

## Theorems

* `Script.runIn_runLine`: A line is read, carried out and answered.
* `Script.Scripted.legible`: Lines leave legible shelves.
* `Script.fault_of_line`: The faults of a line in any reachable shop.
* `Script.runLine_ends`, `Script.runLine_long`: The two ways in which a line ends.
* `Script.line_ends`: Both together.
* `Script.line_unanswered`: A line that ends in the other way.
-/

namespace Shopfloor

namespace Script

variable {shop : Shop} {token : Option String} {line : String}

/-- A shop to which lines lead from the empty one, whether they succeed or fail. -/
inductive Scripted : Shop → Prop
  | empty : Scripted .empty
  | line {shop : Shop} (token : Option String) (line : String) (h : Scripted shop) :
    Scripted ((runLine token line).runIn shop).2

/-- An operation that some line asks for. -/
def Asked (op : Operation) : Prop := ∃ line s, Statement.read line = .ok s ∧ s.operation = op

/-- The units in baskets that a statement has to name. -/
def Statement.units (s : Statement) (shop : Shop) : List Int :=
  match s.display, shop.query s.operation with
  | .confirmation, _ => (shop.refusedUnits s.operation).toList
  | _, some (.basket b) => b.lines.values
  | _, _ => []

/-- The numbers that the words for a record name. -/
def numbersShown : Reply → List Int
  | .inventory i => [i.count, i.capacity]
  | .basket b => b.lines.values
  | _ => []

/-- The numbers that the answer to a statement names. A sentence for what was done names those of the
    line that is written about it. -/
def Statement.numbers (s : Statement) (reply : Reply) : List Int :=
  match s.display with
  | .confirmation => s.operation.logged reply
  | _ => numbersShown reply

/-- How a line ends that can be gone on after: in an answer or in a failure, with words for it. -/
inductive Ends (token : Option String) (line : String) (shop : Shop) : Except Fault String → Prop
  | answer {s : Statement} {reply : Reply} {text : String} (hread : Statement.read line = .ok s)
    (hrun : (Shop.run token s.operation shop).1 = .ok reply) (htext : s.answer reply = .ok text)
    (hnumbers : ∀ n ∈ s.numbers reply, Number.writable n = true) : Ends token line shop (.ok text)
  | failure {fault : Fault} (h : fault.Sayable) : Ends token line shop (.error fault)

/-! ## The parts of a line -/

/-- A line is read, carried out and answered. -/
theorem runIn_runLine :
    (runLine token line).runIn shop =
      match Statement.read line with
      | .error e => (.error e, shop)
      | .ok s =>
        match Shop.run token s.operation shop with
        | (.ok reply, shop') => (s.answer reply, shop')
        | (.error e, shop') => (.error e, shop') := by
  unfold runLine
  cases Statement.read line with
  | error e => rfl
  | ok s =>
      change (Shop.perform token s.operation >>= fun r => Act.ofExcept (s.answer r)).runIn shop = _
      rw [Act.runIn_bind]
      unfold Shop.run
      dsimp only
      rcases (Shop.perform token s.operation).runIn shop with ⟨result, shop'⟩
      cases result with
      | error e => rfl
      | ok reply =>
          dsimp only
          cases s.answer reply with
          | error e => rfl
          | ok text => rfl

/-- What a line asks for has everything given that it needs. -/
theorem Asked.given {op : Operation} (h : Asked op) : op.Given := by
  rcases h with ⟨line, s, hread, rfl⟩
  exact ((read_reads line).ok s hread).given

/-- A line does to the shop what it asks for, or nothing. -/
theorem runLine_shop :
    ((runLine token line).runIn shop).2 = shop ∨
      ∃ op, Asked op ∧ ((runLine token line).runIn shop).2 = (Shop.run token op shop).2 := by
  rw [runIn_runLine]
  cases hread : Statement.read line with
  | error e => exact .inl rfl
  | ok s =>
      refine .inr ⟨s.operation, ⟨line, s, hread, rfl⟩, ?_⟩
      dsimp only
      rcases Shop.run token s.operation shop with ⟨result, shop'⟩
      cases result with
      | error e => rfl
      | ok reply => rfl

/-- Lines lead where the calls lead that they ask for. -/
theorem Scripted.exists_calls (h : Scripted shop) :
    ∃ calls, Shop.runAll .empty calls = shop ∧ ∀ call ∈ calls, Asked call.2 := by
  induction h with
  | empty => exact ⟨[], rfl, fun _ h => absurd h List.not_mem_nil⟩
  | @line shop token line _ ih =>
      rcases ih with ⟨calls, hcalls, hasked⟩
      rcases @runLine_shop shop token line with hsame | ⟨op, hop, hrun⟩
      · exact ⟨calls, hcalls.trans hsame.symm, hasked⟩
      · -- The call of the line comes at the end.
        refine ⟨calls ++ [(token, op)], ?_, fun call hcall => ?_⟩
        · unfold Shop.runAll at hcalls ⊢
          rw [List.foldl_append, hcalls, hrun]
          rfl
        · rcases List.mem_append.1 hcall with hcall | hcall
          · exact hasked call hcall
          · exact List.mem_singleton.1 hcall ▸ hop

theorem Scripted.reachable (h : Scripted shop) : Shop.Reachable shop := by
  rcases h.exists_calls with ⟨calls, hcalls, -⟩
  exact Shop.reachable_iff.2 ⟨calls, hcalls⟩

/-- The line of a call that can be said carries the call out and confirms it. -/
theorem runLine_sentence (token : Option String) {call : Call} (hw : call.Writable) :
    runLine token (call.sentence (said call.fields)).line =
      confirmation call.operation <$> Shop.perform token call.operation := by
  rcases (hw.formed (List.Perm.refl _)).read_line with ⟨c, hread, hsaid⟩
  have hstatement : Statement.read (call.sentence (said call.fields)).line =
      .ok (confirms call.asked) := by
    unfold Statement.read
    rw [hread, ok_bind, ofCommand_eq (hsaid.gives (List.Perm.refl _)) hw]
  unfold runLine
  rw [hstatement, ← call.perform_asked, ← call.confirmation_asked]
  rfl

/-- Calls that can be said can be made by lines. -/
theorem Scripted.calls {shop : Shop} (h : Scripted shop) (token : Option String) {calls : List Call}
    (hw : ∀ call ∈ calls, call.Writable) :
    Scripted (Shop.runAll shop (calls.map fun call => (token, call.operation))) := by
  induction calls generalizing shop with
  | nil => exact h
  | cons call calls ih =>
      have hline := h.line token (call.sentence (said call.fields)).line
      rw [runLine_sentence token (hw call List.mem_cons_self)] at hline
      have hsame : ((confirmation call.operation <$> Shop.perform token call.operation).runIn
          shop).2 = (Shop.run token call.operation shop).2 := by
        rw [Act.runIn_map]
        unfold Shop.run
        rcases (Shop.perform token call.operation).runIn shop with ⟨_ | _, _⟩ <;> rfl
      rw [hsame] at hline
      exact ih hline fun other hother => hw other (List.mem_cons_of_mem _ hother)

/-- A capacity that was given can be written. -/
theorem capacity_writable {op : Operation} {k i : String} {j : Inventory}
    (h : Registers op (.fitting k (.inventory i)) j.provisioned) (hop : op.Given) :
    Number.writable j.capacity = true := by
  generalize hrecord : j.provisioned = record at h
  cases h with
  | inventory _ _ n b p most units ht =>
      unfold Inventory.provisioned at hrecord
      rw [Provisioned.inventory.injEq, Inventory.mk.injEq] at hrecord
      rw [hrecord.2.2.1]
      cases hop with
      | provisionInventory _ _ _ _ hcapacity _ _ _ => exact hcapacity

/-- Lines leave shelves of which every number can be written. -/
theorem Scripted.legible (h : Scripted shop) : shop.Legible (Number.writable · = true) := by
  intro i hi
  have hsound := h.reachable.sound
  rcases h.exists_calls with ⟨calls, rfl, hasked⟩
  -- Counts move, but no further than to the capacity, and that one some line has given.
  have hrange := hsound.stocked.of_keeps hi
  rcases hi with ⟨s, hs, hget⟩
  rcases Shop.runAll_registered (Shop.provisioned?_inventory hs hget) with ⟨call, hmem, hcall⟩
  have hcapacity := capacity_writable hcall (hasked call hmem).given
  exact ⟨Number.writable_of_le hrange.1 hrange.2.1 hcapacity, hcapacity⟩

/-! ## Answers and failures -/

/-- What only looks finds what there is to see. -/
theorem query_of_looks {op : Operation} {reply : Reply} {shop' : Shop} (hlooks : Looks op = true)
    (h : Shop.Step shop op reply shop') : shop.query op = some reply := by
  cases h with
  | query hquery => exact hquery
  | _ => cases hlooks

/-- An inventory that is seen stands on a shelf. -/
theorem keeps_of_query (hfiled : Filing shop.stores) {op : Operation} {i : Inventory}
    (h : shop.query op = some (.inventory i)) : shop.Keeps i := by
  cases op with
  | showInventory id =>
      rcases Option.map_eq_some_iff.1 h with ⟨j, hj, hreply⟩
      cases hreply
      cases id with
      | none =>
          -- No store has an inventory without an id.
          rcases List.exists_of_findSome?_eq_some hj with ⟨s, -, hs⟩
          cases hs
      | some k => exact ((Shop.inventory?_eq_some_iff hfiled k i).1 hj).1
  | _ =>
      simp only [Shop.query, Option.map_eq_some_iff, reduceCtorEq, and_false, exists_false] at h

/-- The units in a basket that is seen are at stake. -/
theorem units_of_query {s : Statement} {b : Basket} (hdisplay : s.display ≠ .confirmation)
    (h : shop.query s.operation = some (.basket b)) : s.units shop = b.lines.values := by
  unfold Statement.units
  rw [h]
  cases hd : s.display with
  | confirmation => exact absurd hd hdisplay
  | record => rfl
  | items => rfl

/-- Units that are refused are at stake, since what only looks refuses none. -/
theorem mem_units_of_refused {s : Statement} (hs : s.Fair) {held : Int}
    (h : shop.refusedUnits s.operation = some held) : held ∈ s.units shop := by
  have hdisplay : s.display = .confirmation := by
    by_contra hshown
    have hlooks := hs.looks hshown
    revert h hlooks
    cases s.operation with
    | removeBasketProduct basket product quantity => exact fun _ hlooks => nomatch hlooks
    | _ => exact fun h => nomatch h
  unfold Statement.units
  rw [hdisplay]
  exact Option.mem_toList.2 h

/-- There are words for a record whose numbers can all be written. -/
theorem exists_describe {reply : Reply} (h : ∀ n ∈ numbersShown reply, Number.writable n = true) :
    ∃ text, reply.describe = .ok text := by
  cases reply with
  | inventory i =>
      rw [numbersShown, List.forall_mem_cons, List.forall_mem_singleton, ← Bool.and_eq_true] at h
      dsimp only [Reply.describe]
      unfold Inventory.describe Inventory.isWritable
      rw [if_pos h]
      exact ⟨_, rfl⟩
  | basket b =>
      rw [numbersShown, ← List.all_eq_true] at h
      dsimp only [Reply.describe]
      unfold Basket.describe Basket.isWritable
      rw [if_pos h]
      exact ⟨_, rfl⟩
  | _ => exact ⟨_, rfl⟩

/-- There are words for what is shown if its numbers can all be written. -/
theorem exists_answer {s : Statement} {reply : Reply}
    (h : s.display ≠ .confirmation → ∀ n ∈ numbersShown reply, Number.writable n = true) :
    ∃ text, s.answer reply = .ok text := by
  rcases s with ⟨op, display⟩
  cases display with
  | confirmation => exact ⟨_, rfl⟩
  | record => exact exists_describe (h nofun)
  | items =>
      cases reply with
      | basket b =>
          have hlines : ∀ n ∈ b.lines.values, Number.writable n = true := h nofun
          rw [← List.all_eq_true] at hlines
          change ∃ text, b.itemList = .ok text
          unfold Basket.itemList Basket.isWritable
          rw [if_pos hlines]
          split <;> exact ⟨_, rfl⟩
      | _ =>
          dsimp only [Statement.answer]
          exact exists_describe (h nofun)

/-- There are no words for a basket with a line that cannot be written. -/
theorem answer_long {s : Statement} {b : Basket} (hdisplay : s.display ≠ .confirmation)
    (h : ¬ b.isWritable = true) : s.answer (.basket b) = .error (.badValue .longNumber) := by
  rcases s with ⟨op, display⟩
  cases display with
  | confirmation => exact absurd rfl hdisplay
  | record => exact if_neg h
  | items =>
      -- A basket without lines has none that is too long.
      have hlines : ¬ b.lines.isEmpty = true := fun hempty => h (by
        unfold Basket.isWritable Keyed.values
        rw [List.isEmpty_iff.1 hempty]
        rfl)
      change b.itemList = _
      unfold Basket.itemList
      rw [if_neg hlines, if_neg h]

/-- What is written about an operation that has taken its step can be written. The numbers are those
    of the line itself, but for the count after an update. -/
theorem logged_writable (hfiled : Filing shop.stores)
    (hlegible : shop.Legible (Number.writable · = true)) {op : Operation} (hop : op.Given)
    {reply : Reply} {shop' : Shop} (hstep : Shop.Step shop op reply shop') :
    ∀ n ∈ op.logged reply, Number.writable n = true := by
  -- Only the count after an update is new, and it stays within the capacity.
  cases hop with
  | updateInventory id hdelta =>
      cases hstep with
      | query hquery => cases hquery
      | adjustInventory hi hlow hhigh hi' =>
          subst hi'
          have hcapacity := (hlegible _ ((Shop.inventory?_eq_some_iff hfiled _ _).1 hi).1).2
          exact List.forall_mem_singleton.2 (Number.writable_of_le hlow hhigh hcapacity)
  | addBasketProduct basket product hquantity => exact List.forall_mem_singleton.2 hquantity
  | removeBasketProduct basket product hquantity => exact List.forall_mem_singleton.2 hquantity
  | _ => exact fun n hn => absurd hn List.not_mem_nil

/-- What is answered once a statement has taken its step can be written. -/
theorem answer_sayable (h : Scripted shop) {s : Statement} (hs : s.Fair) {reply : Reply}
    {shop' : Shop} (hstep : Shop.Step shop s.operation reply shop')
    (hunits : ∀ n ∈ s.units shop, Number.writable n = true) :
    (∃ text, s.answer reply = .ok text) ∧ ∀ n ∈ s.numbers reply, Number.writable n = true := by
  have hfiled := h.reachable.sound.filed.floor
  -- A basket is only spelled out by what looks, so its lines are the units at stake.
  have hlines (hdisplay : s.display ≠ .confirmation) (b : Basket) (hb : reply = .basket b) :
      ∀ n ∈ b.lines.values, Number.writable n = true := by
    have hquery := query_of_looks (hs.looks hdisplay) hstep
    rw [hb] at hquery
    rwa [units_of_query hdisplay hquery] at hunits
  have hshown (hdisplay : s.display ≠ .confirmation) :
      ∀ n ∈ numbersShown reply, Number.writable n = true := by
    cases reply with
    | inventory i =>
        have hi := h.legible i (keeps_of_query hfiled (query_of_looks (hs.looks hdisplay) hstep))
        exact List.forall_mem_cons.2 ⟨hi.1, List.forall_mem_singleton.2 hi.2⟩
    | basket b => exact hlines hdisplay b rfl
    | _ => exact fun n hn => absurd hn List.not_mem_nil
  refine ⟨exists_answer hshown, ?_⟩
  rcases s with ⟨op, display⟩
  cases display with
  | record => exact hshown nofun
  | items => exact hshown nofun
  | confirmation => exact logged_writable hfiled h.legible hs.given hstep

/-- A statement that fails is refused with words. -/
theorem failure_sayable (h : Scripted shop) {s : Statement} (hs : s.Fair)
    (htoken : Shop.isToken token = true) {e : Fault} {shop' : Shop}
    (hrun : Shop.run token s.operation shop = (.error e, shop'))
    (hunits : ∀ n ∈ s.units shop, Number.writable n = true) : e.Sayable := by
  have hsound := h.reachable.sound
  rcases hdone : (Shop.carryOut s.operation).runIn shop with ⟨e' | reply, next⟩
  · rw [Shop.run_of_error htoken hdone] at hrun
    cases hrun
    have hcause := Shop.carryOut_refuses hsound (fun _ hn => hn) h.legible hs.given
      (fun held hheld => hunits held (mem_units_of_refused hs hheld)) e shop' hdone
    exact hcause.sayable
  · -- It was carried out, and the line about it can be written.
    exfalso
    have hstep := (Shop.carryOut_meets hsound s.operation).ok reply next hdone
    have hrecorded := (s.operation.recorded_eq_ok_iff reply reply).2
      ⟨logged_writable hsound.filed.floor h.legible hs.given hstep, rfl⟩
    rw [Shop.run_of_isToken htoken, hdone] at hrun
    dsimp only [Except.bind] at hrun
    rw [hrecorded] at hrun
    cases hrun

/-! ## Faults of lines -/

/-- A value that a check gives or refuses, if it is refused, is refused for the number. -/
theorem long_of_check {α : Type} {c : Prop} [Decidable c] {a : α} {e : Fault}
    (h : (if c then .ok a else .error (.badValue .longNumber) : Except Fault α) = .error e) :
    e = .badValue .longNumber := by
  split at h
  · cases h
  · exact (Except.error.inj h).symm

theorem long_of_describe {reply : Reply} {e : Fault} (h : reply.describe = .error e) :
    e = .badValue .longNumber := by
  cases reply with
  | inventory i =>
      dsimp only [Reply.describe] at h
      unfold Inventory.describe at h
      exact long_of_check h
  | basket b =>
      dsimp only [Reply.describe] at h
      unfold Basket.describe at h
      exact long_of_check h
  | _ =>
      dsimp only [Reply.describe] at h
      cases h

/-- Only numbers keep an answer from being written. -/
theorem long_of_answer {s : Statement} {reply : Reply} {e : Fault} (h : s.answer reply = .error e) :
    e = .badValue .longNumber := by
  rcases s with ⟨op, display⟩
  cases display with
  | confirmation =>
      dsimp only [Statement.answer] at h
      cases h
  | record =>
      dsimp only [Statement.answer] at h
      exact long_of_describe h
  | items =>
      cases reply with
      | basket b =>
          dsimp only [Statement.answer] at h
          unfold Basket.itemList at h
          split at h
          · cases h
          · exact long_of_check h
      | _ =>
          dsimp only [Statement.answer] at h
          exact long_of_describe h

/-- An operation that a line asks for is refused in words, or it ends in a number that is too
    long. -/
theorem fault_of_run (h : Shop.Reachable shop) {op : Operation} (hop : op.Given) {e : Fault}
    (hrun : (Shop.run token op shop).1 = .error e) : e.Sayable ∨ e = .badValue .longNumber := by
  cases htoken : Shop.isToken token with
  | false =>
      rw [Shop.run_of_not_isToken htoken] at hrun
      cases hrun
      exact .inl (Fault.sayable_of_nil _ nofun rfl)
  | true =>
      rw [Shop.run_of_isToken htoken] at hrun
      rcases hdone : (Shop.carryOut op).runIn shop with ⟨e' | reply, next⟩
      · rw [hdone] at hrun
        cases hrun
        -- Nothing need be known of the numbers.
        have hcause := Shop.carryOut_refuses h.sound (W := fun _ => True) (fun _ _ => trivial)
          (fun _ _ => ⟨trivial, trivial⟩) hop (fun _ _ => trivial) e next hdone
        exact hcause.sayable_or_long
      · rw [hdone] at hrun
        exact .inr ((op.recorded_eq_error_iff reply e).1 hrun).1

/-- In whatever shop, a line that is not answered ends in a failure, or in a number that is too
    long. -/
theorem fault_of_line (h : Shop.Reachable shop) {e : Fault}
    (ho : ((runLine token line).runIn shop).1 = .error e) :
    e.Sayable ∨ e = .badValue .longNumber := by
  rw [runIn_runLine] at ho
  cases hread : Statement.read line with
  | error flaw =>
      -- A line that cannot be read asks for nothing, and its refusal names no number.
      rcases (read_reads line).error flaw hread with ⟨l, flaw, rfl⟩
      rw [hread] at ho
      cases ho
      exact .inl (Fault.sayable_of_nil _ nofun rfl)
  | ok s =>
      rw [hread] at ho
      dsimp only at ho
      rcases hrun : Shop.run token s.operation shop with ⟨e' | reply, shop'⟩
      · rw [hrun] at ho
        cases ho
        exact fault_of_run h ((read_reads line).ok s hread).given (congrArg Prod.fst hrun)
      · rw [hrun] at ho
        exact .inr (long_of_answer ho)

/-! ## Both ways -/

/-- Units that would have to be named and cannot be end a line in the fault that is no failure. -/
theorem runLine_long {s : Statement} (hread : Statement.read line = .ok s)
    (htoken : Shop.isToken token = true) {n : Int} (hn : n ∈ s.units shop)
    (hlong : ¬ Number.writable n = true) :
    (runLine token line).runIn shop = (.error (.badValue .longNumber), shop) := by
  rw [runIn_runLine, hread]
  dsimp only
  by_cases hdisplay : s.display = .confirmation
  · unfold Statement.units at hn
    rw [hdisplay] at hn
    -- The number stands in the words of a refusal.
    rw [Shop.run_of_error htoken (Shop.carryOut_unsayable (Option.mem_toList.1 hn) hlong)]
  · unfold Statement.units at hn
    split at hn
    · rename_i hconfirmed
      exact absurd hconfirmed hdisplay
    · rename_i b hquery _
      rw [Shop.run_of_query htoken hquery]
      -- The number stands in the lines of a basket that is shown.
      have hb : ¬ b.isWritable = true := fun h => hlong (List.all_eq_true.1 h n hn)
      dsimp only
      rw [answer_long hdisplay hb]
    · cases hn

/-- If all units that would have to be named can be, a line ends in an answer or in a failure. -/
theorem runLine_ends (h : Scripted shop)
    (hunits : ∀ s, Statement.read line = .ok s → Shop.isToken token = true →
      ∀ n ∈ s.units shop, Number.writable n = true) :
    Ends token line shop ((runLine token line).runIn shop).1 := by
  have hsound := h.reachable.sound
  rw [runIn_runLine]
  cases hread : Statement.read line with
  | error e =>
      rcases (read_reads line).error e hread with ⟨l, flaw, rfl⟩
      exact .failure (Fault.sayable_of_nil _ nofun rfl)
  | ok s =>
      have hs := (read_reads line).ok s hread
      dsimp only
      cases htoken : Shop.isToken token with
      | false =>
          -- Without a token nothing is looked at, and the refusal names no number.
          rw [Shop.run_of_not_isToken htoken]
          exact .failure (Fault.sayable_of_nil _ nofun rfl)
      | true =>
          have hwritable := hunits s hread htoken
          rcases hrun : Shop.run token s.operation shop with ⟨result, shop'⟩
          cases result with
          | ok reply =>
              rcases answer_sayable h hs (Shop.run_ok hsound hrun) hwritable with
                ⟨⟨text, htext⟩, hnumbers⟩
              dsimp only
              rw [htext]
              exact .answer hread (congrArg Prod.fst hrun) htext hnumbers
          | error e => exact .failure (failure_sayable h hs htoken hrun hwritable)

/-- How a line ends in a shop that lines have led to. If all units in baskets that it has to name can
    be written, it ends in an answer or in a failure of one of the usual kinds, with words for it and
    without a number that cannot be written. Otherwise it ends in a fault that is no failure, and the
    shop is what it was. -/
theorem line_ends (h : Scripted shop) (token : Option String) (line : String) :
    ((∀ s, Statement.read line = .ok s → Shop.isToken token = true →
        ∀ n ∈ s.units shop, Number.writable n = true) →
      Ends token line shop ((runLine token line).runIn shop).1) ∧
    ((∃ s, Statement.read line = .ok s ∧ Shop.isToken token = true ∧
        ∃ n ∈ s.units shop, ¬ Number.writable n = true) →
      (runLine token line).runIn shop = (.error (.badValue .longNumber), shop)) := by
  refine ⟨runLine_ends h, ?_⟩
  rintro ⟨s, hread, htoken, n, hn, hlong⟩
  exact runLine_long hread htoken hn hlong

/-- Calls after which a basket holds one unit more than can be written. A shelf is emptied into the
    basket, filled up again, and one more unit is taken. -/
def hoard : List Call :=
  [.provisionStore "s" "Store" "1 Gate Road", .provisionAisle ⟨"s", "1"⟩ "Aisle" none none,
    .provisionShelf ⟨"s", "1", "a"⟩ "Shelf" "low" none "ambient",
    .provisionProduct "p" "Pins" none none none "1" "ambient",
    .provisionInventory "i" ⟨"s", "1", "a"⟩ Number.greatest Number.greatest "p" none,
    .provisionCustomer "c" "Ada" "L" "guest" "a@b" "acc", .provisionBasket "b",
    .assignCustomerBasket "c" "b", .updateCustomer "c" ⟨"s", "1"⟩,
    .addBasketProduct "b" "p" Number.greatest, .updateInventory "i" Number.greatest,
    .addBasketProduct "b" "p" 1]

/-- The shop after these calls. -/
def hoarded : Shop := Shop.runAll .empty (hoard.map fun call => (some "key", call.operation))

theorem hoard_writable : ∀ call ∈ hoard, call.Writable := by
  have hgreatest := Number.writable_greatest
  have hone := Number.writable_one
  have hprice : ∃ x, Number.readDecimal "1" = some x :=
    Option.isSome_iff_exists.1 (by decide +kernel)
  intro call hcall
  unfold hoard at hcall
  simp only [List.mem_cons, List.not_mem_nil, or_false] at hcall
  rcases hcall with rfl | rfl | rfl | rfl | rfl | rfl | rfl | rfl | rfl | rfl | rfl | rfl <;>
    refine ⟨?_, by decide, ?_, nofun⟩ <;>
    simp [Call.target, Call.fields, Argument.Writable, Argument.IsPart, hgreatest, hone, hprice]

theorem scripted_hoarded : Scripted hoarded := Scripted.empty.calls (some "key") hoard_writable

/-- In that shop the line for the customer is answered, and the line for the basket is not. -/
theorem ends_after_hoard :
    (∃ text, Ends (some "key") "show customer c" hoarded (.ok text)) ∧
      (runLine (some "key") "show basket b").runIn hoarded =
        (.error (.badValue .longNumber), hoarded) := by
  have hcustomer := (line_ends scripted_hoarded (some "key") "show customer c").1
  have hbasket := (line_ends scripted_hoarded (some "key") "show basket b").2
  constructor
  · have hread : Statement.read "show customer c" = .ok (shows (.showCustomer (some "c"))) := by
      decide +kernel
    have hanswer : ∃ text, ((runLine (some "key") "show customer c").runIn hoarded).1 = .ok text :=
      ⟨"Customer c Ada L type=guest email=a@b account=acc location=s:1 basket=b", by decide +kernel⟩
    rcases hanswer with ⟨text, hanswer⟩
    rw [hanswer] at hcustomer
    refine ⟨text, hcustomer fun s hs _ => ?_⟩
    rw [hread] at hs
    cases hs
    decide +kernel
  · have hread : Statement.read "show basket b" = .ok (shows (.showBasket (some "b"))) := by
      decide +kernel
    exact hbasket ⟨_, hread, by decide, Number.greatest + 1, by decide +kernel, by decide +kernel⟩

/-- So a line can end in something that is neither an answer nor a failure. -/
theorem line_unanswered :
    ¬ ∀ shop, Scripted shop → ∀ token line,
      (∃ text, ((runLine token line).runIn shop).1 = .ok text) ∨
      ∃ action cause, ((runLine token line).runIn shop).1 = .error (.failure action cause) ∧
        cause.kind ∈ Kind.answers := by
  intro hall
  have hrun : ((runLine (some "key") "show basket b").runIn hoarded).1 =
      .error (.badValue .longNumber) := by decide +kernel
  have hends := hall hoarded scripted_hoarded (some "key") "show basket b"
  rw [hrun] at hends
  rcases hends with ⟨text, htext⟩ | ⟨action, cause, hfailure, -⟩
  · cases htext
  · cases hfailure

end Script

end Shopfloor
