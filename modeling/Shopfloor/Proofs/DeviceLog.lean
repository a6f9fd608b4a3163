import Mathlib.Data.List.Forall2
import Shopfloor.Proofs.Range
/-!
# The Log of the Devices

The log holds one entry for every message that was published, and nothing else.

An entry names the device that had the id when the message was published, with
its type and the aisle where it stood. Ids of devices are used again when a
store has closed, so the same id may mean a camera in one entry and a robot in
another. What an entry says is therefore a matter of the shop in which it was
written, which is the shop that the deed was done in. `Deed.Publishes` relates
a deed to its entry, and the log of a run is related to its deeds one to one.

The type of a device is read twice when it is installed, once to tell what the
device can do and once to be kept. Both times it is the text in small letters
and without blanks around it that counts. Such a text reads the same again, so
the kept type tells what the device can do as well as the text that the caller
wrote. That no sensor was ever sent a command follows: who takes commands is an
appliance, and the types of appliances are three.

## Main definitions

* `Operation.isMessage`: Whether an operation publishes a message.
* `Deed.Publishes`: A deed and the entry that it writes.

## Theorems

* `classifyDevice_fold`: The type that is kept tells what a device can do.
* `Step.publishes`: What a step writes into the log.
* `Trace.publishes`: What a run writes into the log.
* `Reachable.device_typed`: Types of devices are canonical, and tell their kinds.
* `device_log`: The log after a run.
-/

namespace Shopfloor

/-- Whether an operation publishes a message of a device. -/
def Operation.isMessage : Operation → Bool
  | .raiseEvent .. | .issueCommand .. => true
  | _ => false

/-- The type that is kept of a device tells what it can do, in whatever spelling the type was
    given. -/
theorem classifyDevice_fold {type : String} {kind : DeviceKind}
    (h : classifyDevice type = .ok kind) : classifyDevice (Choice.fold type) = .ok kind := by
  rcases classifyDevice_eq_ok h with ⟨hcanonical, hkind⟩
  -- Only five texts are kept, and each of them reads as itself.
  generalize Choice.fold type = kept at hcanonical hkind ⊢
  simp only [List.mem_cons, List.not_mem_nil, or_false] at hcanonical
  rcases hcanonical with rfl | rfl | rfl | rfl | rfl <;> cases kind <;>
    first | rfl | (exact absurd hkind (by decide))

namespace Shop

variable {shop shop' : Shop}

/-- The entry that a deed writes into the log: it names the device that had the id. -/
inductive Deed.Publishes : Deed → DeviceEvent → Prop
  | raised {shop : Shop} {k : String} {d : Device} (text : Option String)
    (hd : shop.device? (some k) = some d) :
    Publishes ⟨shop, .raiseEvent (some k) text⟩
      ⟨k, d.type, "event", text, d.spot.store ++ ":" ++ d.spot.aisle⟩
  | sent {shop : Shop} {k : String} {d : Device} (text : Option String)
    (hd : shop.device? (some k) = some d) (ht : d.kind = .appliance) :
    Publishes ⟨shop, .issueCommand (some k) text⟩
      ⟨k, d.type, "command", text, d.spot.store ++ ":" ++ d.spot.aisle⟩

/-- A message names the id under which the device was found. -/
theorem message_eq (hf : Filing shop.stores) {k : String} {d : Device}
    (hd : shop.device? (some k) = some d) (kind : String) (text : Option String) :
    d.message kind text = ⟨k, d.type, kind, text, d.spot.store ++ ":" ++ d.spot.aisle⟩ := by
  have hid := ((device?_eq_some_iff hf k d).1 hd).2
  unfold Device.message AisleSpot.text AisleSpot.phrase
  rw [hid]
  rfl

/-- What looks only publishes nothing. -/
theorem isMessage_of_query {op : Operation} {r : Reply} (h : shop.query op = some r) :
    op.isMessage = false := by
  cases op <;> first
    | rfl
    | cases h

/-- Moving units publishes nothing. -/
theorem isMessage_of_countsUnits {op : Operation} (h : op.countsUnits = true) :
    op.isMessage = false := by
  cases op <;> first
    | rfl
    | cases h

/-- A step that is a message writes its entry at the end of the log, and no other step touches the
    log. -/
theorem Step.publishes {op : Operation} {r : Reply} (h : Step shop op r shop')
    (hsound : shop.Sound) :
    op.isMessage = true ∧ (∃ e, Deed.Publishes ⟨shop, op⟩ e ∧ shop'.events = shop.events ++ [e]) ∨
      op.isMessage = false ∧ shop'.events = shop.events := by
  have hf := hsound.filed.floor
  cases h with
  | query hquery => exact Or.inr ⟨isMessage_of_query hquery, rfl⟩
  | @raiseEvent k d e text hd he =>
      refine Or.inl ⟨rfl, e, ?_, rfl⟩
      rw [he, message_eq hf hd]
      exact .raised text hd
  | @issueCommand k d e text hd ht he =>
      refine Or.inl ⟨rfl, e, ?_, rfl⟩
      rw [he, message_eq hf hd]
      exact .sent text hd (beq_iff_eq.1 ht)
  | moveCustomer _ hs _ =>
      rw [afterMove_eq hsound.filed.baskets (hsound.store_self hs).2]
      exact Or.inr ⟨rfl, rfl⟩
  | assignBasket hc hb _ _ _ =>
      rw [afterAssign_eq (hsound.basket_self hb).2 (hsound.placed.spot_store hc)]
      exact Or.inr ⟨rfl, rfl⟩
  | _ => exact Or.inr ⟨rfl, rfl⟩

/-- A run writes one entry for each of its deeds that is a message, at the end of the log. -/
theorem Trace.publishes {deeds : List Deed} (h : Trace shop deeds shop') (hsound : shop.Sound) :
    ∃ new, shop'.events = shop.events ++ new ∧
      List.Forall₂ Deed.Publishes (deeds.filter fun d => d.op.isMessage) new := by
  induction h with
  | nil _ => exact ⟨[], (List.append_nil _).symm, .nil⟩
  | cons hstep _ ih =>
      rcases ih (hstep.sound hsound) with ⟨new, hnew, hpublished⟩
      rw [List.filter_cons]
      rcases hstep.publishes hsound with ⟨hmessage, e, he, hevents⟩ | ⟨hmessage, hevents⟩
      · refine ⟨e :: new, ?_, ?_⟩
        · rw [hnew, hevents, List.append_assoc]
          rfl
        · rw [if_pos hmessage]
          exact .cons he hpublished
      · -- The step wrote nothing, so it has no entry to be related to.
        refine ⟨new, ?_, ?_⟩
        · rw [hnew, hevents]
        · rw [if_neg (Bool.eq_false_iff.1 hmessage)]
          exact hpublished
  | unlogged hstep hop _ ih =>
      rcases ih (hstep.sound hsound) with ⟨new, hnew, hpublished⟩
      rcases hstep.publishes hsound with ⟨hmessage, -⟩ | ⟨-, hevents⟩
      · exact absurd hmessage (Bool.eq_false_iff.1 (isMessage_of_countsUnits hop))
      · exact ⟨new, by rw [hnew, hevents], hpublished⟩

/-- The device that stands in a store was installed by an operation of the run, in whatever spelling
    of its type. -/
theorem device_installed {calls : List (Option String × Operation)} {k i : String} {s : Store}
    {d : Device} (hs : (Shop.runAll .empty calls).stores.get? k = some s)
    (hd : s.devices.get? i = some d) :
    ∃ name w n, .provisionDevice (some i) (some name) w (some k) (some n) ∈ done .empty calls ∧
      d.type = Choice.fold w ∧ classifyDevice w = .ok d.kind := by
  rcases done_registered (provisioned?_device hs hd) with ⟨op, hop, hput⟩
  rcases hput.device_inv with ⟨name, w, n, rfl, htype, hkind⟩
  exact ⟨name, w, n, hop, htype, hkind⟩

/-- In a reachable shop the type of a device is one of five, and tells what the device can do. -/
theorem Reachable.device_typed (h : Reachable shop) {k i : String} {s : Store} {d : Device}
    (hs : shop.stores.get? k = some s) (hd : s.devices.get? i = some d) :
    d.type ∈ ["microphone", "camera", "speaker", "robot", "turnstile"] ∧
      classifyDevice d.type = .ok d.kind := by
  rcases reachable_iff.1 h with ⟨calls, rfl⟩
  rcases device_installed hs hd with ⟨name, w, n, -, htype, hkind⟩
  rw [htype]
  exact ⟨(classifyDevice_eq_ok hkind).1, classifyDevice_fold hkind⟩

/-- Who takes commands has the type of an appliance. -/
theorem Reachable.appliance_typed (h : Reachable shop) {k : String} {d : Device}
    (hd : shop.device? (some k) = some d) (hkind : d.kind = .appliance) :
    d.type ∈ ["speaker", "robot", "turnstile"] := by
  rcases ((device?_eq_some_iff h.sound.filed.floor k d).1 hd).1 with ⟨s, hs, hget⟩
  rcases h.device_typed hs hget with ⟨hcanonical, hclass⟩
  rw [hkind] at hclass
  -- A microphone or a camera would be read as a sensor.
  generalize d.type = type at hcanonical hclass ⊢
  simp only [List.mem_cons, List.not_mem_nil, or_false] at hcanonical
  rcases hcanonical with rfl | rfl | rfl | rfl | rfl
  · exact absurd hclass (by decide +kernel)
  · exact absurd hclass (by decide +kernel)
  · decide
  · decide
  · decide

/-- No entry is a command to a device that is not an appliance. -/
theorem commanded_typed {deeds : List Deed} {new : List DeviceEvent}
    (hdeeds : ∀ d ∈ deeds, Reachable d.before)
    (h : List.Forall₂ Deed.Publishes deeds new) :
    ∀ e ∈ new, e.kind = "command" → e.type ∈ ["speaker", "robot", "turnstile"] := by
  induction h with
  | nil => exact nofun
  | @cons d e deeds new hd _ ih =>
      intro e' he' hcommand
      rcases List.mem_cons.1 he' with rfl | hin
      · have hreachable := hdeeds d List.mem_cons_self
        -- The shop that matters is the one in which the message was sent.
        cases hd with
        | raised text _ => exact absurd hcommand (by decide : "event" ≠ "command")
        | sent text hfound hkind => exact hreachable.appliance_typed hfound hkind
      · exact ih (fun d' hd' => hdeeds d' (List.mem_cons_of_mem _ hd')) e' hin hcommand

/-- The log after any run. It holds, in order, one entry for each message that was raised or sent,
    which names the device that had the id then, and it holds nothing else; whatever is done
    afterwards, these entries stay at its beginning. The types of devices are canonical and tell
    what they can do, and no sensor was ever sent a command. -/
theorem device_log (calls more : List (Option String × Operation)) :
    List.Forall₂ Deed.Publishes ((history .empty calls).filter fun d => d.op.isMessage)
      (Shop.runAll .empty calls).events ∧
    (Shop.runAll .empty calls).events <+: (Shop.runAll .empty (calls ++ more)).events ∧
    (∀ k s i d, (Shop.runAll .empty calls).stores.get? k = some s → s.devices.get? i = some d →
      d.type ∈ ["microphone", "camera", "speaker", "robot", "turnstile"] ∧
      classifyDevice d.type = .ok d.kind ∧
      ∃ name w n, .provisionDevice (some i) (some name) w (some k) (some n) ∈ done .empty calls ∧
        d.type = Choice.fold w ∧ classifyDevice w = .ok d.kind) ∧
    (∀ e ∈ (Shop.runAll .empty calls).events, e.kind = "command" →
      e.type ∈ ["speaker", "robot", "turnstile"]) := by
  have hreachable := Reachable.empty.runAll calls
  rcases (sound_empty.trace calls).publishes sound_empty with ⟨log, hlog, hpublished⟩
  have hevents : (Shop.runAll .empty calls).events = log := hlog
  rw [hevents]
  refine ⟨hpublished, ?_, ?_, ?_⟩
  · rcases (hreachable.sound.trace more).publishes hreachable.sound with ⟨new, hnew, -⟩
    unfold Shop.runAll at hnew hevents ⊢
    rw [List.foldl_append, hnew, hevents]
    exact List.prefix_append _ _
  · intro k s i d hs hd
    rcases hreachable.device_typed hs hd with ⟨hcanonical, hclass⟩
    exact ⟨hcanonical, hclass, device_installed hs hd⟩
  · refine commanded_typed (fun d hd => ?_) hpublished
    exact Reachable.empty.of_mem_history (List.mem_of_mem_filter hd)

/-- A store closes in which a camera stood, and its id goes to a robot in another store. -/
def shift : List (Option String × Operation) :=
  let ask op := (some "key", op)
  morning.take 3 ++
    [ask (.provisionDevice (some "d") (some "Eye") " Camera\n" (some "north") (some "1")),
      ask (.raiseEvent (some "d") (some "dusk")),
      ask (.deleteStore (some "north")),
      ask (.provisionAisle (some "south") (some "2") (some "Doors") none none),
      ask (.provisionDevice (some "d") (some "Arm") "ROBOT" (some "south") (some "2"))]

/-- What the camera saw stays in the log under the id of the robot. -/
theorem log_of_reused_id :
    [⟨"d", "camera", "event", some "dusk", "north:1"⟩] <+:
        (Shop.runAll .empty (shift ++ [(some "key", .issueCommand (some "d") (some "go"))])).events ∧
      ((Shop.runAll .empty shift).device? (some "d")).map Device.type = some "robot" := by
  have hlog : (Shop.runAll .empty shift).events =
      [⟨"d", "camera", "event", some "dusk", "north:1"⟩] := by decide +kernel
  have h := device_log shift [(some "key", .issueCommand (some "d") (some "go"))]
  rw [hlog] at h
  exact ⟨h.2.1, by decide +kernel⟩

end Shop

end Shopfloor
