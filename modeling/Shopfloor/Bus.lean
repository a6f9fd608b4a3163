import Shopfloor.Device
/-!
# The Message Bus

How messages of devices reach those who asked for them. The bus looks at the
kind of a message and at nothing else, so any part of a message may be missing,
its kind included.

A subscription is to one kind of message, or to all of them under the kind
`*`. The handlers of one kind stand in a row, in the order in which they
subscribed. A message is entered in the log and then handed to the row of its
kind, and after it to the row of everything. Who gets it is settled before the
first handler runs, so a handler that subscribes does so for later messages. A
handler that fails stops nobody.

Who the handlers are makes no difference to what the bus keeps, so a
`Switchboard` has handlers of any sort. The handlers of a `Bus` can do a few
things, and they may publish in turn: what they publish is delivered before the
next handler runs. Nothing about a bus bounds how deep this goes. For a `Bus` to
be a function it is bounded here, by `Bus.nesting`.

## Main definitions

* `Message`: What is sent over a bus.
* `Switchboard`: Rows of handlers, and the log.
* `Switchboard.handlersFor`: Who gets a message of a kind.
* `Reaction`, `Handler`: What is done with a message.
* `Bus`: A switchboard, with a trace of what handlers did.
* `Bus.subscribe`, `Bus.publish`, `Bus.clearLog`: The acts on a bus.
-/

namespace Shopfloor

/-- What is sent over a bus. -/
structure Message where
  device : Option String
  type : Option String
  kind : Option String
  text : Option String
  location : Option String
deriving DecidableEq, Repr

/-- A message of a device, sent over a bus. -/
def Message.ofEvent (e : DeviceEvent) : Message :=
  ⟨e.device, e.type, e.kind, e.message, e.location⟩

/-- A message in words, its text in quotes. -/
def Message.describe (m : Message) : String :=
  DeviceEvent.phrase (shown m.kind) (shown m.device) m.text

/-- What a bus keeps: who asked for which kind of message, and what was published. -/
structure Switchboard (H : Type) where
  /-- The kinds that were subscribed to, each with its handlers in the order of subscription. -/
  rows : List (Option String × List H)
  log : List Message
deriving DecidableEq, Repr

namespace Switchboard

variable {H : Type}

/-- A switchboard to which nobody subscribed. -/
def empty : Switchboard H := ⟨[], []⟩

/-- The kind of subscriptions to everything. -/
def everything : Option String := some "*"

/-- The handlers that subscribed to a kind, in order. -/
def subscribersOf (board : Switchboard H) (kind : Option String) : List H :=
  (board.rows.lookup kind).getD []

/-- Who gets a message of a kind, in the order of delivery. -/
def handlersFor (board : Switchboard H) (kind : Option String) : List H :=
  board.subscribersOf kind ++ board.subscribersOf everything

/-- Puts a handler at the end of the row of a kind. -/
def addToRow (kind : Option String) (h : H) :
    List (Option String × List H) → List (Option String × List H)
  | [] => [(kind, [h])]
  | row :: rows =>
    if kind = row.1 then (row.1, row.2 ++ [h]) :: rows else row :: addToRow kind h rows

/-- Subscribes a handler to a kind. -/
def subscribe (board : Switchboard H) (kind : Option String) (h : H) : Switchboard H :=
  { board with rows := addToRow kind h board.rows }

/-- Enters a message in the log. -/
def enter (board : Switchboard H) (m : Message) : Switchboard H :=
  { board with log := board.log ++ [m] }

/-- Empties the log. -/
def clearLog (board : Switchboard H) : Switchboard H := { board with log := [] }

/-! ### What each act does to rows and log -/

theorem lookup_addToRow (kind kind' : Option String) (h : H)
    (rows : List (Option String × List H)) :
    ((addToRow kind h rows).lookup kind').getD [] =
      (rows.lookup kind').getD [] ++ if kind = kind' then [h] else [] := by
  induction rows with
  | nil =>
      by_cases hk : kind = kind'
      · simp [addToRow, hk]
      · have hb : (kind' == kind) = false := beq_false_of_ne (Ne.symm hk)
        simp [addToRow, List.lookup_cons, hb, hk]
  | cons row rows ih =>
      obtain ⟨kind₁, hs⟩ := row
      rw [addToRow]
      by_cases hr : kind' = kind₁
      · subst hr
        by_cases hk : kind = kind' <;> simp [hk]
      · have hb : (kind' == kind₁) = false := beq_false_of_ne hr
        by_cases hk : kind = kind₁
        · -- The handler went to a row that is not asked for.
          have hne : ¬ kind₁ = kind' := fun heq => hr heq.symm
          simp [hk, List.lookup_cons, hb, hne]
        · simp [hk, List.lookup_cons, hb, ih]

@[simp]
theorem subscribersOf_subscribe (board : Switchboard H) (kind kind' : Option String) (h : H) :
    (board.subscribe kind h).subscribersOf kind' =
      board.subscribersOf kind' ++ if kind = kind' then [h] else [] :=
  lookup_addToRow kind kind' h board.rows

end Switchboard

/-- What a handler does after it has noted a message. -/
inductive Reaction
  | nothing
  | failure
  /-- Publishes a message of a kind, unless the message at hand is of this kind. -/
  | publish (kind : Option String)
  /-- Subscribes a handler that only notes to a kind. -/
  | subscribe (kind : Option String)
  | clearLog
deriving DecidableEq, Repr

/-- A handler of messages. -/
structure Handler where
  name : String
  reaction : Reaction
deriving DecidableEq, Repr

/-- One line of a trace: who did it, about what kind of message, and with which text. -/
structure Note where
  handler : String
  kind : Option String
  text : Option String
deriving DecidableEq, Repr

/-- A message bus. -/
structure Bus extends Switchboard Handler where
  trace : List Note
deriving DecidableEq, Repr

namespace Bus

/-- A bus to which nobody subscribed. -/
def empty : Bus := ⟨.empty, []⟩

/-- Subscribes a handler to a kind. -/
def subscribe (bus : Bus) (kind : Option String) (h : Handler) : Bus :=
  { bus with toSwitchboard := bus.toSwitchboard.subscribe kind h }

/-- Empties the log. -/
def clearLog (bus : Bus) : Bus := { bus with toSwitchboard := bus.toSwitchboard.clearLog }

/-- Forgets what handlers did. -/
def clearTrace (bus : Bus) : Bus := { bus with trace := [] }

/-- Adds a line to the trace. -/
def note (bus : Bus) (handler : String) (kind text : Option String) : Bus :=
  { bus with trace := bus.trace ++ [⟨handler, kind, text⟩] }

/-- The message that a handler publishes about another. -/
def echo (h : Handler) (kind : Option String) (text : String) : Message :=
  ⟨"H", "robot", kind, h.name ++ ">" ++ text, "S:A"⟩

/-- What a handler does with a message, given how messages are published inside it. -/
def handle (publish : Bus → Message → Bus × Nat) (m : Message) (bus : Bus) (h : Handler) : Bus :=
  let bus := bus.note h.name m.kind m.text
  match h.reaction with
  | .nothing | .failure => bus
  | .clearLog => bus.clearLog
  | .subscribe kind => bus.subscribe kind ⟨h.name ++ "+", .nothing⟩
  | .publish kind =>
    if m.kind = kind then bus
    else match m.text with
      | none => bus
      | some text =>
        let (bus, handlers) := publish bus (echo h kind text)
        bus.note h.name "published" (toString handlers)

/-- Enters a message in the log and delivers it: the bus afterwards, and how many handlers got
    it. -/
def deliver (publish : Bus → Message → Bus × Nat) (bus : Bus) (m : Message) : Bus × Nat :=
  let handlers := bus.handlersFor m.kind
  let bus := { bus with toSwitchboard := bus.toSwitchboard.enter m }
  (handlers.foldl (handle publish m) bus, handlers.length)

/-- Publishes a message inside which handlers may publish to a given depth. -/
def publishWithin : Nat → Bus → Message → Bus × Nat
  | 0 => deliver fun bus _ => (bus, 0)
  | depth + 1 => deliver (publishWithin depth)

/-- How deep handlers may publish inside one another. A bus has no bound of its own. What ends it is
    the stack of calls of whoever runs it, and this number stands for that. -/
def nesting : Nat := 300

/-- Publishes a message: the bus afterwards, and how many handlers got it. -/
def publish (bus : Bus) (m : Message) : Bus × Nat := publishWithin nesting bus m

end Bus

end Shopfloor
