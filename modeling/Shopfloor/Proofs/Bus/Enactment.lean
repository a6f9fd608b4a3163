import Shopfloor.Proofs.Bus.Session
/-!
# A Bus as a Session

The handlers of a `Bus` are a few among all handlers, and what `Bus.publish` does at
one stroke is a session like any other. Each handler does in its turns what its
reaction says, and then returns or raises. So no round is broken off, and when the
message has been delivered the rounds are those from before.

A trace tells more than a session, since handlers also tell how many got what they
published. But for these lines it has the calls of the session, in their order.

## Main definitions

* `Bus.heard`: The lines of a trace that tell of calls.
* `Bus.Alongside`: A session and a bus come the same way.
* `Bus.Enacts`: Turns that do what is done to a bus.
* `Bus.act`: What a program does with a bus.
* `Bus.Plays`: A bus publishes as in a session.

## Theorems

* `handle_enacted`: What a handler does is done in turns.
* `handlers_enacted`: A round comes to its end.
* `publish_enacted`: Publishing is a session.
* `acts_play`: A program never sees a bus do anything else.
-/

namespace Shopfloor

namespace Bus

/-- The lines of a trace that tell of calls, and not of what a handler published. -/
def heard (trace : List Note) : List Note := trace.filter (·.kind != some "published")

/-- The line of a trace that tells of a call. -/
def Output.note? : Output Handler → Option Note
  | .called _ m h => some ⟨h.name, m.kind, m.text⟩
  | .answered .. => none

/-- The calls of a session as a trace tells them. -/
def Session.notes (s : Session Handler) : List Note := s.outputs.filterMap Output.note?

/-- On the way from one point to another, a session has come to rows and log of a bus, and has
    called those of whom the bus got lines in its trace. -/
structure Alongside (s s' : Session Handler) (bus bus' : Bus) : Prop where
  board : s'.board = bus'.toSwitchboard
  trace : ∃ lines, bus'.trace = bus.trace ++ lines ∧ heard s'.notes = heard s.notes ++ heard lines

/-- Turns of a session do what is done to a bus, and they break off no round. -/
structure Enacts (s : Session Handler) (turns : List (Turn Handler)) (rounds : List (Round Handler))
    (bus bus' : Bus) : Prop where
  alongside : Alongside s (s.playOn turns) bus bus'
  rounds : (s.playOn turns).rounds = rounds
  unbroken : .leave .escaped ∉ turns

namespace Alongside

variable {s s' s'' : Session Handler} {bus bus' bus'' : Bus}

theorem refl (hboard : s.board = bus.toSwitchboard) : Alongside s s bus bus :=
  ⟨hboard, [], (List.append_nil _).symm, (List.append_nil _).symm⟩

theorem trans (h : Alongside s s' bus bus') (h' : Alongside s' s'' bus' bus'') :
    Alongside s s'' bus bus'' := by
  rcases h.trace with ⟨lines, htrace, hheard⟩
  rcases h'.trace with ⟨lines', htrace', hheard'⟩
  refine ⟨h'.board, lines ++ lines', ?_, ?_⟩
  · rw [htrace', htrace, List.append_assoc]
  · rw [hheard', hheard, List.append_assoc]
    exact congrArg (heard s.notes ++ ·) (List.filter_append lines lines').symm

/-- A line about what a handler published is one of the bus only. -/
theorem report (h : Alongside s s' bus bus') (handler : String) (text : Option String) :
    Alongside s s' bus (bus'.note handler (some "published") text) :=
  h.trans ⟨h.board, [⟨handler, some "published", text⟩], rfl, (List.append_nil _).symm⟩

/-- The handler that is called gets its line. -/
theorem call (hboard : s.board = bus.toSwitchboard) (rounds : List (Round Handler)) (t : Nat)
    (m : Message) (h : Handler) :
    Alongside s { s with rounds, outputs := s.outputs ++ [.called t m h] } bus
      (bus.note h.name m.kind m.text) := by
  refine ⟨hboard, [⟨h.name, m.kind, m.text⟩], rfl, ?_⟩
  unfold Session.notes
  rw [List.filterMap_append]
  exact List.filter_append _ _

/-- An answer gets no line. -/
theorem answer (hboard : s.board = bus.toSwitchboard) (rounds : List (Round Handler)) (t n : Nat) :
    Alongside s { s with rounds, outputs := s.outputs ++ [.answered t n] } bus bus := by
  refine ⟨hboard, [], (List.append_nil _).symm, ?_⟩
  unfold Session.notes
  rw [List.filterMap_append]
  exact (congrArg heard (List.append_nil _)).trans (List.append_nil _).symm

end Alongside

namespace Enacts

variable {s : Session Handler} {bus bus' bus'' : Bus} {rounds rounds' : List (Round Handler)}

theorem nil (hboard : s.board = bus.toSwitchboard) : Enacts s [] s.rounds bus bus :=
  ⟨.refl hboard, rfl, List.not_mem_nil⟩

/-- What is done one after the other takes the turns of both. -/
theorem append {turns more : List (Turn Handler)} (h : Enacts s turns rounds bus bus')
    (h' : Enacts (s.playOn turns) more rounds' bus' bus'') :
    Enacts s (turns ++ more) rounds' bus bus'' := by
  refine ⟨?_, ?_, ?_⟩
  · rw [Session.playOn_append]
    exact h.alongside.trans h'.alongside
  · rw [Session.playOn_append]
    exact h'.rounds
  · exact fun hmem => (List.mem_append.1 hmem).elim h.unbroken h'.unbroken

/-- Subscribing is done in one turn. -/
theorem subscribe (hboard : s.board = bus.toSwitchboard) (kind : Option String) (h : Handler) :
    Enacts s [.subscribe kind h] s.rounds bus (bus.subscribe kind h) := by
  have hsubscribed := congrArg (Switchboard.subscribe · kind h) hboard
  exact ⟨⟨hsubscribed, (Alongside.refl hboard).trace⟩, rfl, by simp⟩

/-- Emptying the log is done in one turn. -/
theorem clearLog (hboard : s.board = bus.toSwitchboard) :
    Enacts s [.clearLog] s.rounds bus bus.clearLog := by
  have hcleared := congrArg Switchboard.clearLog hboard
  exact ⟨⟨hcleared, (Alongside.refl hboard).trace⟩, rfl, by simp⟩

end Enacts

/-- Whatever a way to publish does can be done in turns. -/
def Enactable (publish : Bus → Message → Bus × Nat) : Prop :=
  ∀ bus m s, s.board = bus.toSwitchboard → ∃ turns, Enacts s turns s.rounds bus (publish bus m).1

variable {publish : Bus → Message → Bus × Nat}

/-- What a handler does once it has been called is done in turns inside of its round. -/
theorem handle_enacted (hpublish : Enactable publish) (m : Message) (bus : Bus) (h : Handler)
    (s : Session Handler) (hboard : s.board = bus.toSwitchboard) :
    ∃ turns, Enacts s turns s.rounds (bus.note h.name m.kind m.text) (handle publish m bus h) := by
  have hnoted : s.board = (bus.note h.name m.kind m.text).toSwitchboard := hboard
  unfold handle
  cases h.reaction with
  | nothing => exact ⟨_, .nil hnoted⟩
  | failure => exact ⟨_, .nil hnoted⟩
  | clearLog => exact ⟨_, .clearLog hnoted⟩
  | subscribe kind => exact ⟨_, .subscribe hnoted kind ⟨h.name ++ "+", .nothing⟩⟩
  | publish kind =>
      dsimp only
      split
      · exact ⟨_, .nil hnoted⟩
      · split
        · exact ⟨_, .nil hnoted⟩
        · rename_i text _
          rcases hpublish _ (echo h kind text) s hnoted with ⟨turns, henacts⟩
          exact ⟨turns, henacts.alongside.report _ _, henacts.rounds, henacts.unbroken⟩

/-- A round in which handlers do what they do comes to its end, and those outside of it have not
    changed. -/
theorem handlers_enacted (hpublish : Enactable publish) (handlers : List Handler) (bus : Bus)
    (s : Session Handler) (r : Round Handler) (outer : List (Round Handler))
    (hboard : s.board = bus.toSwitchboard) (hrounds : s.rounds = r :: outer)
    (hwaiting : r.waiting = handlers) :
    ∃ turns,
      Alongside s (s.proceed.playOn turns) bus (handlers.foldl (handle publish r.message) bus) ∧
      (s.proceed.playOn turns).rounds = outer ∧ .leave .escaped ∉ turns := by
  -- On those who wait: what one of them does leaves the round with the rest of them.
  induction handlers generalizing bus s r with
  | nil =>
      rw [Session.proceed_answer s hrounds hwaiting]
      exact ⟨[], .answer hboard outer r.ticket r.handlers.length, rfl, List.not_mem_nil⟩
  | cons h handlers ih =>
      have hcall := Session.proceed_call s hrounds hwaiting
      have hcalled : Alongside s s.proceed bus (bus.note h.name r.message.kind r.message.text) := by
        rw [hcall]
        exact .call hboard _ r.ticket r.message h
      rcases handle_enacted hpublish r.message bus h s.proceed hcalled.board with
        ⟨turns, hdone, hsame, hunbroken⟩
      -- The handler returns or raises, and the bus goes on to those who still wait.
      have hrounds' :
          (s.proceed.playOn turns).rounds = { r with waiting := handlers } :: outer := by
        rw [hsame, hcall]
      rcases ih _ (s.proceed.playOn turns) { r with waiting := handlers } hdone.board hrounds' rfl
        with ⟨more, hrest, houter, hunbroken'⟩
      have hsplit : s.proceed.playOn (turns ++ .leave .returned :: more) =
          (s.proceed.playOn turns).proceed.playOn more :=
        Session.playOn_append _ turns (.leave .returned :: more)
      refine ⟨turns ++ .leave .returned :: more, ?_, ?_, ?_⟩
      · rw [hsplit]
        exact (hcalled.trans hdone).trans hrest
      · rw [hsplit]
        exact houter
      · simp [hunbroken, hunbroken']

theorem deliver_enacted (hpublish : Enactable publish) (bus : Bus) (m : Message)
    (s : Session Handler) (hboard : s.board = bus.toSwitchboard) :
    ∃ inside, Enacts s (.publish m :: inside) s.rounds bus (deliver publish bus m).1 := by
  have hentered : (s.begin m).board = bus.toSwitchboard.enter m :=
    congrArg (Switchboard.enter · m) hboard
  have hwaiting : s.board.handlersFor m.kind = bus.handlersFor m.kind :=
    congrArg (Switchboard.handlersFor · m.kind) hboard
  have hbegun : Alongside s (s.begin m) bus { bus with toSwitchboard := bus.enter m } :=
    ⟨hentered, (Alongside.refl hboard).trace⟩
  rcases handlers_enacted hpublish _ _ (s.begin m) _ s.rounds hbegun.board rfl hwaiting with
    ⟨inside, hdone, hrounds, hunbroken⟩
  exact ⟨inside, hbegun.trans hdone, hrounds, by simp [hunbroken]⟩

/-- Publishing is a session, however deep handlers may publish. -/
theorem publishWithin_enacted (depth : Nat) (bus : Bus) (m : Message) (s : Session Handler)
    (hboard : s.board = bus.toSwitchboard) :
    ∃ inside, Enacts s (.publish m :: inside) s.rounds bus (publishWithin depth bus m).1 := by
  induction depth generalizing bus m s with
  | zero =>
      -- No handler publishes at this depth, which takes no turns.
      have hdeeper : Enactable fun bus _ => (bus, 0) := fun _ _ _ h => ⟨_, .nil h⟩
      exact deliver_enacted hdeeper bus m s hboard
  | succ depth ih =>
      have hdeeper : Enactable (publishWithin depth) := fun bus m s h =>
        (ih bus m s h).imp' (.publish m :: ·) fun _ => id
      exact deliver_enacted hdeeper bus m s hboard

/-- A publication counts those who are on the bus when it is made. -/
theorem publishWithin_count (depth : Nat) (bus : Bus) (m : Message) :
    (publishWithin depth bus m).2 = (bus.handlersFor m.kind).length := by
  cases depth <;> rfl

/-- Publishing on a bus is a session, in which the message is answered with what is counted. -/
theorem publish_enacted (before : List (Turn Handler)) (bus : Bus) (m : Message)
    (hboard : (play before).board = bus.toSwitchboard) :
    ∃ inside,
      Enacts (play before) (.publish m :: inside) (play before).rounds bus (bus.publish m).1 ∧
      (play (before ++ .publish m :: inside)).answers (tickets before) = [(bus.publish m).2] := by
  rcases publishWithin_enacted nesting bus m (play before) hboard with ⟨inside, henacts⟩
  -- Only the rounds from before are left, and none of them has the ticket of this message.
  have hsplit : play (before ++ .publish m :: inside) =
      (play before).playOn (.publish m :: inside) :=
    Session.playOn_append _ before (.publish m :: inside)
  have hover : tickets before ∉ (play (before ++ .publish m :: inside)).underWay := by
    intro hmem
    rw [hsplit, Session.underWay, henacts.rounds] at hmem
    have hissued := (orderly_play before).issued _ hmem
    rw [issued_play] at hissued
    exact Nat.lt_irrefl _ hissued
  refine ⟨inside, henacts, ?_⟩
  cases progress_play before inside m with
  | running r hr ht => exact absurd (ht ▸ List.mem_map_of_mem hr) hover
  | answered _ _ hanswers =>
      rw [hanswers, hboard]
      exact congrArg ([·]) (publishWithin_count nesting bus m).symm
  | broken _ _ _ hescaped =>
      exact absurd (List.mem_cons_of_mem _ hescaped) henacts.unbroken

/-! ### A program and its bus -/

/-- Some turns lead to where a bus is, and more turns publish a message on it. They end all rounds,
    and the message is answered with what the bus counts. -/
def Plays (bus : Bus) (m : Message) : Prop :=
  ∃ before inside,
    Enacts Session.opening before [] Bus.empty bus ∧
    Enacts (play before) (.publish m :: inside) [] bus (bus.publish m).1 ∧
    (play (before ++ .publish m :: inside)).answers (tickets before) = [(bus.publish m).2]

/-- What a program does with a bus, which has no handler to leave. -/
def act (bus : Bus) : Turn Handler → Bus
  | .subscribe kind h => bus.subscribe kind h
  | .publish m => (bus.publish m).1
  | .clearLog => bus.clearLog
  | .leave _ => bus

theorem act_enacted (bus : Bus) (turn : Turn Handler) (s : Session Handler)
    (hboard : s.board = bus.toSwitchboard) :
    ∃ turns, Enacts s turns s.rounds bus (bus.act turn) := by
  cases turn with
  | subscribe kind h => exact ⟨_, .subscribe hboard kind h⟩
  | publish m =>
      exact (publishWithin_enacted nesting bus m s hboard).imp' (.publish m :: ·) fun _ => id
  | clearLog => exact ⟨_, .clearLog hboard⟩
  | leave ending => exact ⟨_, .nil hboard⟩

theorem acts_enacted (acts : List (Turn Handler)) (bus : Bus) (s : Session Handler)
    (hboard : s.board = bus.toSwitchboard) :
    ∃ turns, Enacts s turns s.rounds bus (acts.foldl act bus) := by
  induction acts generalizing bus s with
  | nil => exact ⟨_, .nil hboard⟩
  | cons turn acts ih =>
      rcases act_enacted bus turn s hboard with ⟨turns, henacts⟩
      rcases ih _ _ henacts.alongside.board with ⟨more, hmore⟩
      have hmore' : Enacts (s.playOn turns) more s.rounds (bus.act turn)
          (acts.foldl act (bus.act turn)) := henacts.rounds ▸ hmore
      exact ⟨turns ++ more, henacts.append hmore'⟩

/-- Whatever a program has done with a bus, it is where a session can be, and it publishes as in
    that session. -/
theorem acts_play (acts : List (Turn Handler)) (m : Message) :
    Plays (acts.foldl act Bus.empty) m := by
  rcases acts_enacted acts Bus.empty Session.opening rfl with ⟨before, hbefore⟩
  rcases publish_enacted before _ m hbefore.alongside.board with ⟨inside, hinside, hanswer⟩
  have hrounds : (play before).rounds = [] := hbefore.rounds
  exact ⟨before, inside, hbefore, hrounds ▸ hinside, hanswer⟩

end Bus

end Shopfloor
