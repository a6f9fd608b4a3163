import Shopfloor.Bus
import Shopfloor.Proofs.DeviceLog
import Shopfloor.Shop.Upkeep
/-!
# The Log of a Shop and of its Bus

A shop publishes its messages over a bus, and keeps them in its own log. Who
listens to the bus makes no difference to the shop, but a handler can publish
messages that no device ever sent, or empty the log of the bus.

As long as nobody who subscribed does either, both logs are the same. Handlers may
come and go as they like, fail, and bring in others of their sort. Then every
message of a device is entered in the log of the bus once, when the shop publishes
it, and nothing else is entered there.

## Main definitions

* `Reaction.listens`: A handler neither publishes nor empties the log.
* `Bus.Listening`: Those who subscribed to a bus only listen.
* `Bus.publishAll`: Messages of devices are published one after the other.
* `Shop.Wired`: A shop and a bus that have the same log.

## Theorems

* `Listening.handle`, `Listening.publish`: What handlers that listen leave of a bus.
* `Listening.publishAll`: The same for a run of messages.
* `Step.wired`: A step of a shop goes along with at most one message.
* `Trace.wired`: A run goes along with the messages of its deeds.
-/

namespace Shopfloor

/-- A handler neither publishes nor empties the log. -/
def Reaction.listens : Reaction → Bool
  | .nothing | .failure | .subscribe _ => true
  | .publish _ | .clearLog => false

namespace Bus

/-- Those who subscribed to a bus only listen. -/
def Listening (bus : Bus) : Prop :=
  ∀ kind, ∀ h ∈ bus.subscribersOf kind, h.reaction.listens = true

/-- Messages of devices are published one after the other. -/
def publishAll (bus : Bus) (es : List DeviceEvent) : Bus :=
  es.foldl (fun bus e => (bus.publish (.ofEvent e)).1) bus

variable {bus : Bus}

theorem listening_empty : empty.Listening := nofun

theorem Listening.subscribe (hb : bus.Listening) (kind : Option String) {h : Handler}
    (hh : h.reaction.listens = true) : (bus.subscribe kind h).Listening := by
  intro kind' h' hmem
  rw [Bus.subscribe, Switchboard.subscribersOf_subscribe, List.mem_append] at hmem
  rcases hmem with hmem | hmem
  · exact hb kind' h' hmem
  · split at hmem
    · rw [List.mem_singleton.1 hmem]
      exact hh
    · cases hmem

/-- A handler that listens leaves the log as it is, and brings in only those that listen. -/
theorem Listening.handle (hb : bus.Listening) {h : Handler} (hh : h.reaction.listens = true)
    (publish : Bus → Message → Bus × Nat) (m : Message) :
    (handle publish m bus h).Listening ∧ (handle publish m bus h).log = bus.log := by
  unfold Bus.handle
  cases hreaction : h.reaction with
  | nothing | failure => exact ⟨hb, rfl⟩
  | subscribe kind =>
      refine ⟨?_, rfl⟩
      have hnote : (bus.note h.name m.kind m.text).Listening := hb
      exact hnote.subscribe kind rfl
  | publish _ | clearLog =>
      rw [hreaction] at hh
      exact absurd hh Bool.false_ne_true

/-- Nor do several of them, one after the other. -/
theorem Listening.handles {handlers : List Handler}
    (hh : ∀ h ∈ handlers, h.reaction.listens = true) (publish : Bus → Message → Bus × Nat)
    (m : Message) (hb : bus.Listening) :
    (handlers.foldl (Bus.handle publish m) bus).Listening ∧
      (handlers.foldl (Bus.handle publish m) bus).log = bus.log := by
  -- Each handler finds the bus that those before it have left.
  induction handlers generalizing bus with
  | nil => exact ⟨hb, rfl⟩
  | cons h handlers ih =>
      rw [List.forall_mem_cons] at hh
      rcases hb.handle hh.1 publish m with ⟨hfirst, hlog⟩
      rcases ih hh.2 hfirst with ⟨hrest, hlog'⟩
      exact ⟨hrest, hlog'.trans hlog⟩

/-- Among those who listen a message is entered in the log once, and nothing else is. -/
theorem Listening.publish (hb : bus.Listening) (m : Message) :
    (bus.publish m).1.Listening ∧ (bus.publish m).1.log = bus.log ++ [m] := by
  have hh : ∀ h ∈ bus.handlersFor m.kind, h.reaction.listens = true := by
    intro h hmem
    rcases List.mem_append.1 hmem with hmem | hmem
    · exact hb _ h hmem
    · exact hb _ h hmem
  -- The row is settled when the message is entered; whoever comes in later is not in it.
  have henter : ({ bus with toSwitchboard := bus.toSwitchboard.enter m } : Bus).Listening := hb
  exact henter.handles hh _ m

theorem Listening.publishAll (hb : bus.Listening) (es : List DeviceEvent) :
    (bus.publishAll es).Listening ∧ (bus.publishAll es).log = bus.log ++ es.map .ofEvent := by
  induction es generalizing bus with
  | nil => exact ⟨hb, (List.append_nil _).symm⟩
  | cons e es ih =>
      rcases hb.publish (.ofEvent e) with ⟨hfirst, hlog⟩
      rcases ih hfirst with ⟨hrest, hlog'⟩
      refine ⟨hrest, hlog'.trans ?_⟩
      rw [hlog, List.append_assoc]
      rfl

end Bus

namespace Shop

/-- A shop and a bus that have the same log, among handlers that only listen. -/
structure Wired (shop : Shop) (bus : Bus) : Prop where
  listening : bus.Listening
  log : bus.log = shop.events.map .ofEvent

variable {shop shop' : Shop} {bus : Bus}

theorem wired_empty : Wired .empty .empty := ⟨Bus.listening_empty, rfl⟩

theorem Wired.subscribe (hw : shop.Wired bus) (kind : Option String) {h : Handler}
    (hh : h.reaction.listens = true) : shop.Wired (bus.subscribe kind h) :=
  ⟨hw.listening.subscribe kind hh, hw.log⟩

theorem Wired.clear (hw : shop.Wired bus) : shop.clearEvents.Wired bus.clearLog :=
  ⟨hw.listening, rfl⟩

theorem Wired.reset (hw : shop.Wired bus) : shop.reset.Wired bus := ⟨hw.listening, hw.log⟩

/-- What comes into the log of a shop is published over the bus. -/
theorem Wired.publishAll (hw : shop.Wired bus) {es : List DeviceEvent}
    (hevents : shop'.events = shop.events ++ es) : shop'.Wired (bus.publishAll es) := by
  rcases hw.listening.publishAll es with ⟨hlistening, hlog⟩
  refine ⟨hlistening, hlog.trans ?_⟩
  rw [hw.log, hevents, List.map_append]

/-- A step that is a message goes along with this message on the bus, and any other step goes along
    with nothing. -/
theorem Step.wired {op : Operation} {r : Reply} (h : Step shop op r shop') (hsound : shop.Sound)
    (hw : shop.Wired bus) :
    op.isMessage = true ∧
        (∃ e, Deed.Publishes ⟨shop, op⟩ e ∧ shop'.Wired (bus.publish (.ofEvent e)).1) ∨
      op.isMessage = false ∧ shop'.Wired bus := by
  rcases h.publishes hsound with ⟨hmessage, e, he, hevents⟩ | ⟨hmessage, hevents⟩
  · exact Or.inl ⟨hmessage, e, he, hw.publishAll hevents⟩
  · refine Or.inr ⟨hmessage, hw.listening, ?_⟩
    rw [hevents]
    exact hw.log

/-- A run of a shop goes along with the messages of its deeds on the bus, one for each deed that is
    a message and in their order. -/
theorem Trace.wired {deeds : List Deed} (h : Trace shop deeds shop') (hsound : shop.Sound)
    (hw : shop.Wired bus) :
    ∃ es, List.Forall₂ Deed.Publishes (deeds.filter fun d => d.op.isMessage) es ∧
      shop'.Wired (bus.publishAll es) := by
  rcases h.publishes hsound with ⟨es, hevents, hpublished⟩
  exact ⟨es, hpublished, hw.publishAll hevents⟩

end Shop

end Shopfloor
