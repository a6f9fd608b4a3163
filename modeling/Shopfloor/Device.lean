import Shopfloor.Choice
import Shopfloor.Location
/-!
# Devices

Sensors and appliances, and the messages that come from them or go to them.
Every device may raise events; commands are for appliances alone.

## Main definitions

* `Device`: A device in an aisle.
* `DeviceEvent`: A message from a device or to it.
* `DeviceEvent.describe`, `Device.describe`: Both in words.
-/

namespace Shopfloor

/-- A device in an aisle of a store. -/
structure Device where
  id : String
  name : String
  type : String
  kind : DeviceKind
  spot : AisleSpot
deriving DecidableEq, Repr

/-- A message that a device raised or was sent. -/
structure DeviceEvent where
  device : String
  type : String
  kind : String
  message : Option String
  location : String
deriving DecidableEq, Repr

/-- The kind of messages that devices raise. -/
def DeviceEvent.eventKind : String := "event"

/-- The kind of messages that devices are sent. -/
def DeviceEvent.commandKind : String := "command"

/-- Whether a device takes commands. -/
def Device.takesCommands (d : Device) : Bool := d.kind == .appliance

/-- The words for a device, given those for its fields. -/
def Device.phrase (id name type kind spot : String) : String :=
  s!"Device {id} '{name}' type={type} ({kind}) at {spot}"

/-- A device in words. -/
def Device.describe (d : Device) : String :=
  phrase d.id d.name d.type (Choice.text d.kind) d.spot.text

/-- A message of a device, of a given kind. -/
def Device.message (d : Device) (kind : String) (text : Option String) : DeviceEvent :=
  ⟨d.id, d.type, kind, text, d.spot.text⟩

/-- The words for a message, given those for its fields. -/
def DeviceEvent.phrase (kind device : String) (message : Option String) : String :=
  s!"DeviceEvent({kind}, device={device}, message=" ++ shown (message.map Text.quote) ++ ")"

/-- A message in words, its text in quotes. -/
def DeviceEvent.describe (e : DeviceEvent) : String := phrase e.kind e.device e.message

end Shopfloor
