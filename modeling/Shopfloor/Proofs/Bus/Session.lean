import Mathlib.Data.List.DropRight
import Shopfloor.Bus
/-!
# Sessions of a Bus

A bus in the hands of handlers of which nothing is known.

A handler may do with the bus whatever the program may do: subscribe others, empty
the log, publish messages, which are then delivered before it goes on. In the end
it returns or raises, or it is left by something that a bus does not hold up, such as
the end of the whole program. None of this is up to the bus. So a session takes the
calls in turns, in the order in which they come and whoever makes them, and adds
only what the bus itself does: whom it calls, and what it answers.

A message is in a round from its publication to its answer, and in each round one
handler is running. Rounds lie inside each other as publications do. A handler that
ends, ends in the innermost round, and whether it returned or raised, the bus goes
on to the next handler of this round or answers. If it was left otherwise, the
round is broken off and there is no answer.

Publications are told apart by tickets, since the same message can be published
twice. No turn is ever refused, so every list of turns is a session.

## Main definitions

* `Bus.Turn`: What is done with a bus, by the program or by the handler that runs.
* `Bus.Round`: A message on its way.
* `Bus.Output`: What a bus does of its own accord.
* `Bus.Session`: A bus in use; `Session.take` is one turn, `play` is all of them.
* `Bus.Session.underWay`: The tickets of the rounds that are not over.
* `Bus.Progress`: How far a publication has come.

## Theorems

* `subscribersOf_play`, `log_play`, `issued_play`: What the turns have made of the bus.
* `Orderly.take`, `orderly_play`: Rounds have tickets of their own.
* `Progress.take`, `progress_play`: How far a publication comes.
* `rounds_playOn_leave`: All rounds come to an end if handlers do.
-/

namespace Shopfloor

namespace Bus

/-- How a handler ends. -/
inductive Ending
  | returned
  | raised
  /-- It is left by something that a bus does not hold up. -/
  | escaped
deriving DecidableEq, Repr

/-- What is done with a bus, by the program or by the handler that runs. -/
inductive Turn (H : Type)
  | subscribe (kind : Option String) (h : H)
  | publish (m : Message)
  | clearLog
  /-- The handler that runs comes to its end. -/
  | leave (ending : Ending)
deriving DecidableEq, Repr

/-- A message on its way, in the hands of a handler. -/
structure Round (H : Type) where
  /-- Which publication it is. -/
  ticket : Nat
  message : Message
  /-- All handlers that the message goes to. -/
  handlers : List H
  /-- Those of them that have not been called. -/
  waiting : List H
deriving DecidableEq, Repr

/-- What a bus does of its own accord. -/
inductive Output (H : Type)
  | called (ticket : Nat) (m : Message) (h : H)
  | answered (ticket : Nat) (handlers : Nat)
deriving DecidableEq, Repr

/-- A bus in use. -/
structure Session (H : Type) where
  board : Switchboard H
  /-- How many messages were published. -/
  issued : Nat
  /-- The rounds that are not over, the innermost first. -/
  rounds : List (Round H)
  outputs : List (Output H)
deriving DecidableEq, Repr

namespace Turn

variable {H : Type}

/-- The message that a turn publishes. -/
def message? : Turn H → Option Message
  | .publish m => some m
  | _ => none

/-- The subscription that a turn makes. -/
def subscription? : Turn H → Option (Option String × H)
  | .subscribe kind h => some (kind, h)
  | _ => none

/-- Whether a turn empties the log. -/
def clears : Turn H → Bool
  | .clearLog => true
  | _ => false

/-- What a turn does to rows and log, which is nothing if a handler comes to its end. -/
def apply (board : Switchboard H) : Turn H → Switchboard H
  | .subscribe kind h => board.subscribe kind h
  | .publish m => board.enter m
  | .clearLog => board.clearLog
  | .leave _ => board

end Turn

namespace Output

variable {H : Type}

/-- Who was called in a publication, and with what. -/
def call? (t : Nat) : Output H → Option (Message × H)
  | .called ticket m h => if ticket = t then some (m, h) else none
  | .answered .. => none

/-- What was answered to a publication. -/
def answer? (t : Nat) : Output H → Option Nat
  | .called .. => none
  | .answered ticket handlers => if ticket = t then some handlers else none

end Output

namespace Session

variable {H : Type}

/-- A bus that has not been used. -/
def opening : Session H := ⟨.empty, 0, [], []⟩

/-- The tickets of the rounds that are not over, the innermost first. -/
def underWay (s : Session H) : List Nat := s.rounds.map Round.ticket

/-- The calls of handlers in a publication, with what each of them was called. -/
def calls (s : Session H) (t : Nat) : List (Message × H) := s.outputs.filterMap (Output.call? t)

/-- The answers to a publication. -/
def answers (s : Session H) (t : Nat) : List Nat := s.outputs.filterMap (Output.answer? t)

/-- Goes on with the innermost round: calls the next handler, or answers if all have been called. -/
def proceed (s : Session H) : Session H :=
  match s.rounds with
  | [] => s
  | r :: outer =>
    match r.waiting with
    | [] => { s with
        rounds := outer, outputs := s.outputs ++ [.answered r.ticket r.handlers.length] }
    | h :: waiting => { s with
        rounds := { r with waiting } :: outer
        outputs := s.outputs ++ [.called r.ticket r.message h] }

/-- Enters a message in the log and begins its round. -/
def begin (s : Session H) (m : Message) : Session H :=
  let handlers := s.board.handlersFor m.kind
  ⟨s.board.enter m, s.issued + 1, ⟨s.issued, m, handlers, handlers⟩ :: s.rounds, s.outputs⟩

/-- What a bus does in one turn. A handler that raises is as good as one that returns. -/
def take (s : Session H) : Turn H → Session H
  | .subscribe kind h => { s with board := s.board.subscribe kind h }
  | .publish m => (s.begin m).proceed
  | .clearLog => { s with board := s.board.clearLog }
  | .leave .returned | .leave .raised => s.proceed
  | .leave .escaped => { s with rounds := s.rounds.tail }

/-- Takes turns one after the other. -/
def playOn (s : Session H) (turns : List (Turn H)) : Session H := turns.foldl take s

end Session

variable {H : Type}

/-- The session of some turns. -/
def play (turns : List (Turn H)) : Session H := Session.opening.playOn turns

/-- The subscriptions that turns make, oldest first. -/
def subscriptions (turns : List (Turn H)) : List (Option String × H) :=
  turns.filterMap Turn.subscription?

/-- How many messages turns publish, which is the ticket of the next one. -/
def tickets (turns : List (Turn H)) : Nat := (turns.filterMap Turn.message?).length

/-- The messages that were published since the log was last emptied. -/
def sinceCleared (turns : List (Turn H)) : List Message :=
  (turns.rtakeWhile fun turn => !turn.clears).filterMap Turn.message?

namespace Session

variable (s : Session H)

/-! ### What turns make of the bus -/

theorem playOn_append (turns more : List (Turn H)) :
    s.playOn (turns ++ more) = (s.playOn turns).playOn more :=
  List.foldl_append

theorem proceed_nil (h : s.rounds = []) : s.proceed = s := by
  unfold proceed
  rw [h]

theorem proceed_answer {r : Round H} {outer : List (Round H)} (h : s.rounds = r :: outer)
    (hw : r.waiting = []) :
    s.proceed = { s with
      rounds := outer, outputs := s.outputs ++ [.answered r.ticket r.handlers.length] } := by
  unfold proceed
  rw [h]
  dsimp only
  rw [hw]

theorem proceed_call {r : Round H} {outer : List (Round H)} {h : H} {waiting : List H}
    (hr : s.rounds = r :: outer) (hw : r.waiting = h :: waiting) :
    s.proceed = { s with
      rounds := { r with waiting } :: outer
      outputs := s.outputs ++ [.called r.ticket r.message h] } := by
  unfold proceed
  rw [hr]
  dsimp only
  rw [hw]

/-- Going on with a round leaves the bus as it is. -/
theorem proceed_keeps : s.proceed.board = s.board ∧ s.proceed.issued = s.issued := by
  cases hr : s.rounds with
  | nil =>
      rw [proceed_nil s hr]
      exact ⟨rfl, rfl⟩
  | cons r outer =>
      cases hw : r.waiting with
      | nil =>
          rw [proceed_answer s hr hw]
          exact ⟨rfl, rfl⟩
      | cons h waiting =>
          rw [proceed_call s hr hw]
          exact ⟨rfl, rfl⟩

theorem issued_take (turn : Turn H) :
    (s.take turn).issued = s.issued + turn.message?.toList.length := by
  cases turn with
  | publish m => exact (s.begin m).proceed_keeps.2
  | leave ending =>
      cases ending with
      | escaped => rfl
      | _ => exact s.proceed_keeps.2
  | _ => rfl

/-- Whatever a session is about, a turn does to the bus what it does to any bus. -/
theorem board_take (turn : Turn H) : (s.take turn).board = turn.apply s.board := by
  cases turn with
  | publish m => exact (s.begin m).proceed_keeps.1
  | leave ending =>
      cases ending with
      | escaped => rfl
      | _ => exact s.proceed_keeps.1
  | _ => rfl

end Session

theorem subscribersOf_apply (board : Switchboard H) (turn : Turn H) (kind : Option String) :
    (turn.apply board).subscribersOf kind = board.subscribersOf kind ++
      (turn.subscription?.toList.filter (·.1 == kind)).map Prod.snd := by
  cases turn with
  | subscribe kind' h =>
      change (board.subscribe kind' h).subscribersOf kind = _
      rw [Switchboard.subscribersOf_subscribe]
      by_cases hk : kind' = kind <;> simp [Turn.subscription?, hk]
  | _ => exact (List.append_nil _).symm

theorem log_apply (board : Switchboard H) (turn : Turn H) :
    (turn.apply board).log = if turn.clears then [] else board.log ++ turn.message?.toList := by
  cases turn with
  | publish m => rfl
  | clearLog => rfl
  | _ => exact (List.append_nil _).symm

theorem play_concat (turns : List (Turn H)) (turn : Turn H) :
    play (turns ++ [turn]) = (play turns).take turn :=
  Session.playOn_append _ turns [turn]

theorem tickets_concat (turns : List (Turn H)) (turn : Turn H) :
    tickets (turns ++ [turn]) = tickets turns + turn.message?.toList.length := by
  unfold tickets
  rw [List.filterMap_append, List.length_append]
  cases h : turn.message? <;> simp [h]

theorem subscriptions_concat (turns : List (Turn H)) (turn : Turn H) :
    subscriptions (turns ++ [turn]) = subscriptions turns ++ turn.subscription?.toList := by
  unfold subscriptions
  rw [List.filterMap_append]
  cases h : turn.subscription? <;> simp [h]

theorem sinceCleared_concat (turns : List (Turn H)) (turn : Turn H) :
    sinceCleared (turns ++ [turn]) =
      if turn.clears then [] else sinceCleared turns ++ turn.message?.toList := by
  unfold sinceCleared
  cases h : turn.clears with
  | true =>
      rw [List.rtakeWhile_concat_neg _ _ _ (by simp [h])]
      rfl
  | false =>
      rw [List.rtakeWhile_concat_pos _ _ _ (by simp [h]), List.filterMap_append]
      cases hm : turn.message? <;> simp [hm]

/-- The log holds what was published since it was last emptied. -/
theorem log_play (turns : List (Turn H)) : (play turns).board.log = sinceCleared turns := by
  induction turns using List.reverseRecOn with
  | nil => rfl
  | append_singleton turns turn ih =>
      rw [play_concat, Session.board_take, log_apply, ih, sinceCleared_concat]

/-- The row of a kind holds the subscriptions to it, in their order. -/
theorem subscribersOf_play (turns : List (Turn H)) (kind : Option String) :
    (play turns).board.subscribersOf kind =
      ((subscriptions turns).filter (·.1 == kind)).map Prod.snd := by
  induction turns using List.reverseRecOn with
  | nil => rfl
  | append_singleton turns turn ih =>
      rw [play_concat, Session.board_take, subscribersOf_apply, ih, subscriptions_concat,
        List.filter_append, List.map_append]

theorem issued_play (turns : List (Turn H)) : (play turns).issued = tickets turns := by
  induction turns using List.reverseRecOn with
  | nil => rfl
  | append_singleton turns turn ih => rw [play_concat, Session.issued_take, ih, tickets_concat]

/-! ### Rounds -/

namespace Session

/-- Rounds have tickets of their own, which were issued before, and of no other ticket anything has
    been heard. -/
structure Orderly (s : Session H) : Prop where
  issued : ∀ t ∈ s.underWay, t < s.issued
  apart : s.underWay.Nodup
  fresh : ∀ t, s.issued ≤ t → s.calls t = [] ∧ s.answers t = []

variable {s : Session H}

theorem orderly_opening : (opening : Session H).Orderly :=
  ⟨nofun, List.nodup_nil, fun _ _ => ⟨rfl, rfl⟩⟩

/-- What is called in a round shows under its ticket. -/
theorem calls_called (t : Nat) (r : Round H) (h : H) (rounds : List (Round H)) :
    calls { s with rounds, outputs := s.outputs ++ [.called r.ticket r.message h] } t =
      s.calls t ++ if r.ticket = t then [(r.message, h)] else [] := by
  unfold calls
  rw [List.filterMap_append]
  by_cases ht : r.ticket = t <;> simp [Output.call?, ht]

theorem answers_called (t : Nat) (r : Round H) (h : H) (rounds : List (Round H)) :
    answers { s with rounds, outputs := s.outputs ++ [.called r.ticket r.message h] } t =
      s.answers t := by
  unfold answers
  rw [List.filterMap_append]
  exact List.append_nil _

theorem calls_answered (t n : Nat) (r : Round H) (rounds : List (Round H)) :
    calls { s with rounds, outputs := s.outputs ++ [.answered r.ticket n] } t = s.calls t := by
  unfold calls
  rw [List.filterMap_append]
  exact List.append_nil _

theorem answers_answered (t n : Nat) (r : Round H) (rounds : List (Round H)) :
    answers { s with rounds, outputs := s.outputs ++ [.answered r.ticket n] } t =
      s.answers t ++ if r.ticket = t then [n] else [] := by
  unfold answers
  rw [List.filterMap_append]
  by_cases ht : r.ticket = t <;> simp [Output.answer?, ht]

/-- Going on with a round shows under its own ticket only. -/
theorem proceed_elsewhere {r : Round H} {outer : List (Round H)} {t : Nat}
    (hr : s.rounds = r :: outer) (ht : r.ticket ≠ t) :
    s.proceed.calls t = s.calls t ∧ s.proceed.answers t = s.answers t := by
  cases hw : r.waiting with
  | nil =>
      rw [proceed_answer s hr hw, calls_answered, answers_answered, if_neg ht, List.append_nil]
      exact ⟨rfl, rfl⟩
  | cons h waiting =>
      rw [proceed_call s hr hw, calls_called, answers_called, if_neg ht, List.append_nil]
      exact ⟨rfl, rfl⟩

/-- Going on with the innermost round keeps the rounds outside of it. -/
theorem subset_rounds_proceed {r : Round H} {outer : List (Round H)}
    (hr : s.rounds = r :: outer) : outer ⊆ s.proceed.rounds := by
  cases hw : r.waiting with
  | nil =>
      rw [proceed_answer s hr hw]
      exact List.Subset.refl outer
  | cons h waiting =>
      rw [proceed_call s hr hw]
      exact List.subset_cons_self { r with waiting } outer

/-- Going on with a round ends it or keeps it. -/
theorem underWay_proceed : s.proceed.underWay.Sublist s.underWay := by
  cases hr : s.rounds with
  | nil =>
      rw [proceed_nil s hr]
  | cons r outer =>
      have htickets : s.underWay = r.ticket :: outer.map Round.ticket := by
        rw [underWay, hr, List.map_cons]
      rw [htickets]
      cases hw : r.waiting with
      | nil =>
          rw [proceed_answer s hr hw]
          exact List.sublist_cons_self r.ticket (outer.map Round.ticket)
      | cons h waiting =>
          rw [proceed_call s hr hw]
          exact List.Sublist.refl (r.ticket :: outer.map Round.ticket)

/-- Leaving the innermost round behind ends it. -/
theorem underWay_tail : (underWay { s with rounds := s.rounds.tail }).Sublist s.underWay :=
  (List.tail_sublist s.rounds).map Round.ticket

/-- A publication whose round is over is not heard of again. -/
theorem proceed_over {t : Nat} (h : t ∉ s.underWay) :
    s.proceed.calls t = s.calls t ∧ s.proceed.answers t = s.answers t := by
  cases hr : s.rounds with
  | nil =>
      rw [proceed_nil s hr]
      exact ⟨rfl, rfl⟩
  | cons r outer =>
      rw [underWay, hr, List.map_cons, List.mem_cons, not_or] at h
      exact proceed_elsewhere hr (Ne.symm h.1)

/-- A round that is not over is the innermost one, or the innermost one is another. -/
theorem Orderly.innermost (hs : s.Orderly) {r : Round H} (hr : r ∈ s.rounds) :
    (∃ outer, s.rounds = r :: outer ∧ r.ticket ∉ outer.map Round.ticket) ∨
      ∃ r₀ outer, s.rounds = r₀ :: outer ∧ r ∈ outer ∧ r₀.ticket ≠ r.ticket := by
  have hapart := hs.apart
  cases hrounds : s.rounds with
  | nil =>
      rw [hrounds] at hr
      cases hr
  | cons r₀ outer =>
      rw [underWay, hrounds, List.map_cons, List.nodup_cons] at hapart
      rw [hrounds, List.mem_cons] at hr
      rcases hr with rfl | hr
      · exact .inl ⟨outer, rfl, hapart.1⟩
      · refine .inr ⟨r₀, outer, rfl, hr, fun heq => hapart.1 ?_⟩
        rw [heq]
        exact List.mem_map_of_mem hr

theorem Orderly.begin (hs : s.Orderly) (m : Message) : (s.begin m).Orderly where
  issued := List.forall_mem_cons.2
    ⟨Nat.lt_succ_self _, fun t ht => Nat.lt_succ_of_lt (hs.issued t ht)⟩
  apart := List.nodup_cons.2 ⟨fun hmem => Nat.lt_irrefl _ (hs.issued _ hmem), hs.apart⟩
  fresh t ht := hs.fresh t (Nat.le_of_succ_le ht)

theorem Orderly.proceed (hs : s.Orderly) : s.proceed.Orderly := by
  refine ⟨fun t ht => ?_, hs.apart.sublist underWay_proceed, fun t ht => ?_⟩
  · rw [s.proceed_keeps.2]
    exact hs.issued t (underWay_proceed.subset ht)
  · rw [s.proceed_keeps.2] at ht
    have hover : t ∉ s.underWay := fun hmem => Nat.not_le_of_lt (hs.issued t hmem) ht
    rw [(proceed_over hover).1, (proceed_over hover).2]
    exact hs.fresh t ht

/-- Rounds stay in order, whatever is done. -/
theorem Orderly.take (hs : s.Orderly) (turn : Turn H) : (s.take turn).Orderly := by
  cases turn with
  | subscribe kind h => exact ⟨hs.issued, hs.apart, hs.fresh⟩
  | publish m => exact (hs.begin m).proceed
  | clearLog => exact ⟨hs.issued, hs.apart, hs.fresh⟩
  | leave ending =>
      cases ending with
      | escaped =>
          exact ⟨fun t ht => hs.issued t (underWay_tail.subset ht), hs.apart.sublist underWay_tail,
            hs.fresh⟩
      | _ => exact hs.proceed

theorem Orderly.playOn (hs : s.Orderly) (turns : List (Turn H)) : (s.playOn turns).Orderly := by
  induction turns generalizing s with
  | nil => exact hs
  | cons turn turns ih => exact ih (hs.take turn)

end Session

theorem orderly_play (turns : List (Turn H)) : (play turns).Orderly :=
  Session.orderly_opening.playOn turns

/-! ### Publications -/

/-- How far a publication has come since its turn: it is in its round, or it was answered after all
    had been called, or a handler was left in such a way that it was broken off. -/
inductive Progress (s : Session H) (t : Nat) (m : Message) (due : List H) (after : List (Turn H)) :
    Prop
  | running (r : Round H) (hr : r ∈ s.rounds) (ht : r.ticket = t) (hm : r.message = m)
      (hall : r.handlers = due)
      (hcalls : s.calls t ++ r.waiting.map (m, ·) = due.map (m, ·)) (hanswers : s.answers t = [])
  | answered (hover : t ∉ s.underWay) (hcalls : s.calls t = due.map (m, ·))
      (hanswers : s.answers t = [due.length])
  | broken (hover : t ∉ s.underWay) (hcalls : s.calls t <+: due.map (m, ·))
      (hanswers : s.answers t = []) (hescaped : .leave .escaped ∈ after)

namespace Progress

variable {s : Session H} {t : Nat} {m : Message} {due : List H} {after : List (Turn H)}

theorem mono {more : List (Turn H)} (h : Progress s t m due after) (hsub : after ⊆ more) :
    Progress s t m due more := by
  cases h with
  | running r hr ht hm hall hcalls hanswers => exact .running r hr ht hm hall hcalls hanswers
  | answered hover hcalls hanswers => exact .answered hover hcalls hanswers
  | broken hover hcalls hanswers hescaped => exact .broken hover hcalls hanswers (hsub hescaped)

/-- Going on with the innermost round goes on with a publication if it is the one of this round. -/
theorem proceed (h : Progress s t m due after) (hs : s.Orderly) :
    Progress s.proceed t m due after := by
  cases h with
  | answered hover hcalls hanswers =>
      rcases Session.proceed_over hover with ⟨hcalls', hanswers'⟩
      have hover' := fun hmem => hover (Session.underWay_proceed.subset hmem)
      exact .answered hover' (hcalls'.trans hcalls) (hanswers'.trans hanswers)
  | broken hover hcalls hanswers hescaped =>
      rcases Session.proceed_over hover with ⟨hcalls', hanswers'⟩
      have hover' := fun hmem => hover (Session.underWay_proceed.subset hmem)
      exact .broken hover' (hcalls' ▸ hcalls) (hanswers'.trans hanswers) hescaped
  | running r hr ht hm hall hcalls hanswers =>
      rcases hs.innermost hr with ⟨outer, hrounds, hothers⟩ | ⟨r₀, outer, hrounds, hr, hother⟩
      · -- It is the round of this publication that goes on.
        rw [ht] at hothers
        cases hw : r.waiting with
        | nil =>
            rw [Session.proceed_answer s hrounds hw]
            refine .answered hothers ?_ ?_
            · rw [Session.calls_answered, ← hcalls, hw]
              exact (List.append_nil _).symm
            · rw [Session.answers_answered, if_pos ht, hanswers, hall]
              rfl
        | cons x waiting =>
            rw [Session.proceed_call s hrounds hw]
            refine .running { r with waiting } List.mem_cons_self ht hm hall ?_ ?_
            · rw [Session.calls_called, if_pos ht, ← hcalls, hw, hm, List.append_assoc]
              rfl
            · rw [Session.answers_called, hanswers]
      · -- Another round goes on inside of it.
        rw [ht] at hother
        rcases Session.proceed_elsewhere hrounds hother with ⟨hcalls', hanswers'⟩
        have hin : r ∈ s.proceed.rounds := Session.subset_rounds_proceed hrounds hr
        exact .running r hin ht hm hall (hcalls' ▸ hcalls) (hanswers'.trans hanswers)

/-- A publication does not see that another begins. -/
theorem begin (h : Progress s t m due after) (ht : t < s.issued) (m' : Message) :
    Progress (s.begin m') t m due after := by
  have hover' : t ∉ s.underWay → t ∉ (s.begin m').underWay :=
    List.not_mem_cons_of_ne_of_not_mem (Nat.ne_of_lt ht)
  cases h with
  | running r hr ht hm hall hcalls hanswers =>
      exact .running r (List.mem_cons_of_mem _ hr) ht hm hall hcalls hanswers
  | answered hover hcalls hanswers =>
      exact .answered (hover' hover) hcalls hanswers
  | broken hover hcalls hanswers hescaped =>
      exact .broken (hover' hover) hcalls hanswers hescaped

/-- A publication is broken off if it is the innermost and its handler is left. -/
theorem escape (h : Progress s t m due after) (hs : s.Orderly)
    (hescaped : .leave .escaped ∈ after) :
    Progress { s with rounds := s.rounds.tail } t m due after := by
  cases h with
  | answered hover hcalls hanswers =>
      exact .answered (fun hmem => hover (Session.underWay_tail.subset hmem)) hcalls hanswers
  | broken hover hcalls hanswers hescaped =>
      have hover' := fun hmem => hover (Session.underWay_tail.subset hmem)
      exact .broken hover' hcalls hanswers hescaped
  | running r hr ht hm hall hcalls hanswers =>
      rcases hs.innermost hr with ⟨outer, hrounds, hothers⟩ | ⟨r₀, outer, hrounds, hr, -⟩
      · -- No other round has its ticket, so it is not heard of again.
        rw [ht] at hothers
        rw [hrounds]
        exact .broken hothers (hcalls ▸ List.prefix_append _ _) hanswers hescaped
      · rw [hrounds]
        exact .running r hr ht hm hall hcalls hanswers

/-- Whatever is done, a publication goes on or stays as it is. -/
theorem take (h : Progress s t m due after) (hs : s.Orderly) (ht : t < s.issued) (turn : Turn H) :
    Progress (s.take turn) t m due (after ++ [turn]) := by
  have hmore : Progress s t m due (after ++ [turn]) := h.mono (List.subset_append_left _ _)
  cases turn with
  | publish m' => exact (hmore.begin ht m').proceed (hs.begin m')
  | leave ending =>
      cases ending with
      | escaped => exact hmore.escape hs (List.mem_append_right _ (List.mem_singleton_self _))
      | _ => exact hmore.proceed hs
  | _ =>
      -- Rounds and outputs are not touched.
      cases hmore with
      | running r hr ht hm hall hcalls hanswers =>
          exact .running r hr ht hm hall hcalls hanswers
      | answered hover hcalls hanswers => exact .answered hover hcalls hanswers
      | broken hover hcalls hanswers hescaped => exact .broken hover hcalls hanswers hescaped

theorem playOn (h : Progress s t m due after) (hs : s.Orderly) (ht : t < s.issued)
    (turns : List (Turn H)) : Progress (s.playOn turns) t m due (after ++ turns) := by
  induction turns generalizing s after with
  | nil =>
      rw [List.append_nil]
      exact h
  | cons turn turns ih =>
      have hissued : t < (s.take turn).issued := by
        rw [Session.issued_take]
        exact Nat.lt_add_right _ ht
      have hnext := ih (h.take hs ht turn) (hs.take turn) hissued
      rw [List.append_assoc] at hnext
      exact hnext

end Progress

/-- A message that is published goes to the handlers that are on the bus then. -/
theorem progress_publish {s : Session H} (hs : s.Orderly) (m : Message) :
    Progress (s.take (.publish m)) s.issued m (s.board.handlersFor m.kind) [] := by
  have hbegun : Progress (s.begin m) s.issued m (s.board.handlersFor m.kind) [] := by
    refine .running _ List.mem_cons_self rfl rfl rfl ?_ (hs.fresh _ (Nat.le_refl _)).2
    change s.calls s.issued ++ _ = _
    rw [(hs.fresh _ (Nat.le_refl _)).1, List.nil_append]
  exact hbegun.proceed (hs.begin m)

/-- How far a publication comes: it concerns those who are on the bus when it is made, whatever is
    done after it. -/
theorem progress_play (before after : List (Turn H)) (m : Message) :
    Progress (play (before ++ .publish m :: after)) (tickets before) m
      ((play before).board.handlersFor m.kind) after := by
  have hs := orderly_play before
  have hpublished := progress_publish hs m
  have hissued : (play before).issued < ((play before).take (.publish m)).issued := by
    rw [Session.issued_take]
    exact Nat.lt_succ_self _
  have hall := hpublished.playOn (hs.take _) hissued after
  rw [List.nil_append, issued_play] at hall
  have hsplit : play (before ++ .publish m :: after) =
      ((play before).take (.publish m)).playOn after :=
    Session.playOn_append _ before (.publish m :: after)
  rw [hsplit]
  exact hall

/-! ### The end of all rounds -/

namespace Session

variable (s : Session H)

/-- How many handlers have to come to their end until all rounds are over. -/
def pending : Nat := s.rounds.foldr (fun r n => r.waiting.length + 1 + n) 0

theorem pending_cons {r : Round H} {outer : List (Round H)} (h : s.rounds = r :: outer) :
    s.pending = r.waiting.length + 1 + pending { s with rounds := outer } := by
  unfold pending
  rw [h]
  rfl

theorem pending_proceed : s.proceed.pending = s.pending - 1 := by
  cases hr : s.rounds with
  | nil =>
      rw [proceed_nil s hr]
      unfold pending
      rw [hr]
      rfl
  | cons r outer =>
      rw [pending_cons s hr]
      cases hw : r.waiting with
      | nil =>
          rw [proceed_answer s hr hw, List.length_nil]
          exact (Nat.add_sub_cancel_left (0 + 1) _).symm
      | cons h waiting =>
          rw [proceed_call s hr hw, List.length_cons]
          change waiting.length + 1 + pending { s with rounds := outer } = _
          omega

/-- Each handler that ends brings the end of all rounds nearer. -/
theorem pending_leave (ending : Ending) : (s.take (.leave ending)).pending ≤ s.pending - 1 := by
  cases ending with
  | escaped =>
      change pending { s with rounds := s.rounds.tail } ≤ _
      cases hr : s.rounds with
      | nil => exact Nat.zero_le _
      | cons r outer =>
          rw [pending_cons s hr, List.tail_cons]
          omega
  | _ => exact Nat.le_of_eq s.pending_proceed

/-- If handlers only end from now on, all rounds come to an end. -/
theorem rounds_playOn_leave (endings : List Ending) (h : s.pending ≤ endings.length) :
    (s.playOn (endings.map .leave)).rounds = [] := by
  induction endings generalizing s with
  | nil =>
      cases hr : s.rounds with
      | nil => exact hr
      | cons r outer =>
          rw [pending_cons s hr, List.length_nil] at h
          omega
  | cons ending endings ih =>
      have hnearer := s.pending_leave ending
      rw [List.length_cons] at h
      exact ih (s.take (.leave ending)) (by omega)

end Session

end Bus

end Shopfloor
