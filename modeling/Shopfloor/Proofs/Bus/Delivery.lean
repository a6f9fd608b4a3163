import Mathlib.Data.List.Perm.Basic
import Shopfloor.Proofs.Bus.Enactment
/-!
# Who Gets a Message

A message concerns the subscriptions to its kind and the subscriptions to everything
that were made before it. Each of them gets it once, whatever handlers do meanwhile,
and it is answered with their number when all of them have ended.

They do not get it in the order in which they subscribed. A bus keeps its rows apart
and hands a message first to the row of its kind and then to the row of everything,
so one who subscribed to everything waits for those who subscribed to the kind
later. Both orders are the same if and only if there is nobody of this sort. The
kind of subscriptions to everything can be the kind of a message too. Then both
rows are the same row, and each in it gets the message twice.

## Main definitions

* `Bus.addressed`: The subscriptions that a kind concerns, oldest first.
* `Bus.inRows`: The same subscriptions, row by row.
* `Bus.Delivered`: What becomes of a message.

## Theorems

* `filter_append_filter_perm`, `filter_append_filter_eq_iff`: Two rows and the whole.
* `inRows_perm_addressed`, `inRows_eq_addressed_iff`, `inRows_everything`: Both orders.
* `delivered_row_by_row`: What becomes of a message, in any session and on a `Bus`.
-/

namespace Shopfloor

namespace Bus

open Switchboard (everything)

variable {H : Type}

/-! ### Two rows -/

section Rows

variable {α : Type} (p q : α → Bool)

/-- Two rows that have nothing in common hold together what is in either. -/
theorem filter_append_filter_perm (l : List α) (hpq : ∀ a, p a → ¬ q a) :
    (l.filter p ++ l.filter q).Perm (l.filter fun a => p a || q a) := by
  -- The whole is divided by `p`.
  have hleft : (l.filter fun a => p a || q a).filter p = l.filter p := by
    rw [List.filter_filter]
    refine List.filter_congr fun a _ => ?_
    cases p a <;> rfl
  have hright : (l.filter fun a => p a || q a).filter (fun a => !p a) = l.filter q := by
    rw [List.filter_filter]
    refine List.filter_congr fun a _ => ?_
    have ha := hpq a
    cases hp : p a with
    | false => exact Bool.true_and _
    | true => exact (eq_false_of_ne_true (ha hp)).symm
  have hsplit := List.filter_append_perm p (l.filter fun a => p a || q a)
  rw [hleft, hright] at hsplit
  exact hsplit

/-- One row after the other is the whole in its order if the second row begins where the first
    ends. -/
theorem filter_append_filter_eq_iff (l : List α) (hpq : ∀ a, p a → ¬ q a) :
    l.filter p ++ l.filter q = l.filter (fun a => p a || q a) ↔
      l.Pairwise fun a b => q a → ¬ p b := by
  induction l with
  | nil => exact iff_of_true rfl List.Pairwise.nil
  | cons a l ih =>
      rw [List.pairwise_cons]
      cases hp : p a with
      | true =>
          have hq : ¬ q a := hpq a hp
          rw [List.filter_cons_of_pos hp, List.filter_cons_of_neg hq,
            List.filter_cons_of_pos (by rw [hp]; rfl), List.cons_append, List.cons_inj_right, ih]
          exact (and_iff_right fun b _ hqa => absurd hqa hq).symm
      | false =>
          have hp' : ¬ p a := ne_true_of_eq_false hp
          cases hq : q a with
          | false =>
              have hq' : ¬ q a := ne_true_of_eq_false hq
              rw [List.filter_cons_of_neg hp', List.filter_cons_of_neg hq',
                List.filter_cons_of_neg (by rw [hp, hq]; exact Bool.false_ne_true), ih]
              exact (and_iff_right fun b _ hqa => absurd hqa Bool.false_ne_true).symm
          | true =>
              rw [List.filter_cons_of_neg hp', List.filter_cons_of_pos hq,
                List.filter_cons_of_pos (by rw [hq]; exact Bool.or_true _)]
              -- Here the second row begins.
              constructor
              · -- The whole begins with `a`, so nothing of the first row is left.
                intro heq
                have hnone : l.filter p = [] := by
                  cases hl : l.filter p with
                  | nil => rfl
                  | cons b bs =>
                      rw [hl, List.cons_append, List.cons.injEq] at heq
                      have hb : b ∈ l.filter p := hl ▸ List.mem_cons_self
                      exact absurd (heq.1 ▸ (List.mem_filter.1 hb).2) hp'
                refine ⟨fun b hb _ => List.filter_eq_nil_iff.1 hnone b hb, ih.1 ?_⟩
                rw [hnone, List.nil_append, List.cons_inj_right] at heq
                rw [hnone, List.nil_append, heq]
              · rintro ⟨hlast, hrest⟩
                have hnone : l.filter p = [] :=
                  List.filter_eq_nil_iff.2 fun b hb => hlast b hb rfl
                have heq := ih.2 hrest
                rw [hnone, List.nil_append] at heq
                rw [hnone, List.nil_append, heq]

end Rows

/-- The subscriptions that a kind of message concerns, oldest first. -/
def addressed (kind : Option String) (subs : List (Option String × H)) : List (Option String × H) :=
  subs.filter fun sub => sub.1 == kind || sub.1 == everything

/-- The subscriptions to a kind, oldest first, and after them the subscriptions to everything. -/
def inRows (kind : Option String) (subs : List (Option String × H)) : List (Option String × H) :=
  subs.filter (·.1 == kind) ++ subs.filter (·.1 == everything)

section Kinds

variable {kind : Option String} (subs : List (Option String × H))

/-- No subscription stands in both rows. -/
theorem not_in_both (hkind : kind ≠ everything) (sub : Option String × H) :
    (sub.1 == kind) = true → ¬ (sub.1 == everything) = true := fun h h' =>
  hkind ((beq_iff_eq.1 h).symm.trans (beq_iff_eq.1 h'))

/-- Row by row, each subscription has its turn once. -/
theorem inRows_perm_addressed (hkind : kind ≠ everything) :
    (inRows kind subs).Perm (addressed kind subs) :=
  filter_append_filter_perm _ _ subs (not_in_both hkind)

/-- Row by row is oldest first unless somebody subscribed to everything before another to the
    kind. -/
theorem inRows_eq_addressed_iff (hkind : kind ≠ everything) :
    inRows kind subs = addressed kind subs ↔
      subs.Pairwise fun sub later => sub.1 = everything → later.1 ≠ kind := by
  refine (filter_append_filter_eq_iff _ _ subs (not_in_both hkind)).trans ?_
  simp only [beq_iff_eq, ne_eq]

/-- If the kind is that of everything, each subscription has its turn twice. -/
theorem inRows_everything :
    inRows everything subs = addressed everything subs ++ addressed everything subs := by
  unfold inRows addressed
  simp only [Bool.or_self]

end Kinds

/-- A bus calls row by row those who subscribed. -/
theorem handlersFor_play (turns : List (Turn H)) (kind : Option String) :
    (play turns).board.handlersFor kind = (inRows kind (subscriptions turns)).map Prod.snd := by
  unfold Switchboard.handlersFor inRows
  rw [subscribersOf_play, subscribersOf_play, List.map_append]

/-- What becomes of a message that is published after some turns and before others. -/
structure Delivered (before after : List (Turn H)) (m : Message) : Prop where
  /-- Those on the bus are called one after the other, and nobody else is. -/
  calls : (play (before ++ .publish m :: after)).calls (tickets before) <+:
    (inRows m.kind (subscriptions before)).map fun sub => (m, sub.2)
  /-- It is answered once at most, with their number, and not before all of them were called. -/
  answers : (play (before ++ .publish m :: after)).answers (tickets before) = [] ∨
    (play (before ++ .publish m :: after)).answers (tickets before) =
        [(inRows m.kind (subscriptions before)).length] ∧
      (play (before ++ .publish m :: after)).calls (tickets before) =
        (inRows m.kind (subscriptions before)).map fun sub => (m, sub.2)
  /-- When its round is over, it has been answered, whoever raised. -/
  finished : tickets before ∉ (play (before ++ .publish m :: after)).underWay →
    .leave .escaped ∉ after →
    (play (before ++ .publish m :: after)).answers (tickets before) =
      [(inRows m.kind (subscriptions before)).length]
  /-- Its round is over when handlers have come to their end often enough. -/
  ends : ∃ n, ∀ endings : List Ending, n ≤ endings.length →
    (play (before ++ .publish m :: (after ++ endings.map .leave))).rounds = []
  /-- The log holds what was published since it was last emptied. -/
  log : (play (before ++ .publish m :: after)).board.log =
    sinceCleared (before ++ .publish m :: after)
  /-- Each subscription that it concerns has its turn once. -/
  once : m.kind ≠ everything →
    (inRows m.kind (subscriptions before)).Perm (addressed m.kind (subscriptions before))
  /-- They have their turns in the order of subscription unless somebody subscribed to everything
      before another subscribed to the kind. -/
  order : m.kind ≠ everything →
    (inRows m.kind (subscriptions before) = addressed m.kind (subscriptions before) ↔
      (subscriptions before).Pairwise fun sub later => sub.1 = everything → later.1 ≠ m.kind)
  /-- If its kind is that of everything, each subscription has its turn twice. -/
  twice : m.kind = everything →
    inRows m.kind (subscriptions before) =
      addressed m.kind (subscriptions before) ++ addressed m.kind (subscriptions before)

theorem delivered_play (before after : List (Turn H)) (m : Message) :
    Delivered before after m := by
  have hdue : (((play before).board.handlersFor m.kind).map fun h => (m, h)) =
      (inRows m.kind (subscriptions before)).map fun sub => (m, sub.2) := by
    rw [handlersFor_play, List.map_map]
    rfl
  have hcount : ((play before).board.handlersFor m.kind).length =
      (inRows m.kind (subscriptions before)).length := by
    rw [handlersFor_play, List.length_map]
  -- Calls and answers are read off from how far the publication has come.
  have hprogress := progress_play before after m
  refine ⟨?_, ?_, ?_, ?_, log_play _, inRows_perm_addressed _, inRows_eq_addressed_iff _, ?_⟩
  · rw [← hdue]
    cases hprogress with
    | running r hr ht hm hall hcalls => exact hcalls ▸ List.prefix_append _ _
    | answered hover hcalls => exact hcalls ▸ List.prefix_rfl
    | broken hover hcalls => exact hcalls
  · rw [← hdue, ← hcount]
    cases hprogress with
    | running r hr ht hm hall hcalls hanswers => exact .inl hanswers
    | answered hover hcalls hanswers => exact .inr ⟨hanswers, hcalls⟩
    | broken hover hcalls hanswers => exact .inl hanswers
  · intro hover hunbroken
    rw [← hcount]
    cases hprogress with
    | running r hr ht => exact absurd (ht ▸ List.mem_map_of_mem hr) hover
    | answered hover hcalls hanswers => exact hanswers
    | broken hover hcalls hanswers hescaped => exact absurd hescaped hunbroken
  · refine ⟨(play (before ++ .publish m :: after)).pending, fun endings hlength => ?_⟩
    rw [← List.cons_append, ← List.append_assoc]
    unfold play
    rw [Session.playOn_append]
    exact Session.rounds_playOn_leave _ endings hlength
  · intro hkind
    rw [hkind]
    exact inRows_everything _

/-- What becomes of a message, whoever the handlers are and whatever they do. And it is what a bus
    does that a program has used for a while. -/
theorem delivered_row_by_row (before after : List (Turn H)) (acts : List (Turn Handler))
    (m : Message) : Delivered before after m ∧ Plays (acts.foldl act Bus.empty) m :=
  ⟨delivered_play before after m, acts_play acts m⟩

/-- What a camera reports. -/
def motion : Message := ⟨"D1", "camera", "event", "motion", "S1:A1"⟩

/-- What a robot is told. -/
def restock : Message := ⟨"D2", "robot", "command", "restock", "S1:A1"⟩

/-- Handler 0 subscribes to everything and gets a command. Then handler 1 subscribes to events, and
    the log is emptied. -/
def early : List (Turn Nat) := [.subscribe everything 0, .publish restock, .leave .returned,
  .subscribe (some "event") 1, .clearLog]

/-- Handler 1 publishes a command, which handler 0 gets, subscribes another handler and raises. Then
    handler 0 has its turn. -/
def busy : List (Turn Nat) := [.publish restock, .leave .returned, .subscribe (some "event") 2,
  .leave .raised, .leave .returned]

/-- The message is answered although handler 1 raised, and those who came first to the bus have it
    last. -/
theorem delivered_of_busy :
    (play (early ++ .publish motion :: busy)).answers 1 = [2] ∧
      (play (early ++ .publish motion :: busy)).calls 1 = [(motion, 1), (motion, 0)] ∧
      (play (early ++ .publish motion :: busy)).board.log = [motion, restock] ∧
      (inRows motion.kind (subscriptions early)).Perm
        (addressed motion.kind (subscriptions early)) ∧
      inRows motion.kind (subscriptions early) ≠ addressed motion.kind (subscriptions early) := by
  have h := (delivered_row_by_row early busy [] motion).1
  have hanswers := h.finished (by decide +kernel) (by decide)
  have hcalls := h.answers.resolve_left (hanswers ▸ List.cons_ne_nil _ _)
  exact ⟨hanswers, hcalls.2, h.log, h.once (by decide), fun heq =>
    absurd ((h.order (by decide)).1 heq) (by decide +kernel)⟩

/-- Handler w subscribes to everything before handler e subscribes to events. -/
def crossed : List (Option String × Handler) :=
  [(everything, ⟨"w", .nothing⟩), (some "event", ⟨"e", .nothing⟩)]

/-- A bus with those handlers. -/
def crossedBus : Bus := crossed.foldl (fun bus sub => bus.subscribe sub.1 sub.2) Bus.empty

/-- Handler w subscribed first and gets an event last. A message to the kind of everything it gets
    twice. -/
theorem delivered_out_of_order :
    ((crossedBus.publish motion).1.trace.map (·.handler) = ["e", "w"] ∧
      (addressed motion.kind crossed).map (·.2.name) = ["w", "e"]) ∧
    ((crossedBus.publish { motion with kind := everything }).1.trace.map (·.handler) = ["w", "w"] ∧
      (crossedBus.publish { motion with kind := everything }).2 = 2 ∧
      (addressed everything crossed).map (·.2.name) = ["w"]) := by
  decide +kernel

end Bus

end Shopfloor
