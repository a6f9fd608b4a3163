import Shopfloor.Fault
import Shopfloor.Text.Blank
import Shopfloor.Text.Case
/-!
# Choices

Fields that hold one of a few fixed values: where an aisle lies, how high a
shelf hangs, how cold it is, and so on.

Every choice has a title, its members in a fixed order, and for each member
the text that stands for it in records and the name it has in the type. A
caller may write the text in any letter case and with blanks around it; a
record that is made directly takes the exact text only. The texts of a choice
differ from one another, so reading what is written gives the member back.

## Main definitions

* `Choice`: A type with few named values.
* `Choice.exactly?`: The member with an exact text.
* `Choice.read?`: The member that a caller's text names.
* `Choice.require`: The same, refusing a text that names none.
* `classifyDevice`: Whether a type of device senses or acts.
-/

namespace Shopfloor

/-- A type with few named values. -/
class Choice (α : Type) where
  title : String
  members : List α
  /-- The text that stands for a member in records. -/
  text : α → String
  /-- The name of a member. -/
  label : α → String

namespace Choice

variable {α : Type}

/-- The member with an exact text. -/
def exactly? [Choice α] (s : String) : Option α := members.find? fun a => text a == s

/-- A text in small letters and without blanks at its ends. -/
def fold (s : String) : String := Text.lower (Text.trim s)

/-- The member that a caller's text names. -/
def read? [Choice α] (s : String) : Option α := exactly? (fold s)

/-- The texts that name members, as a message lists them. -/
def accepted (α : Type) [Choice α] : String := "|".intercalate ((members (α := α)).map text)

/-- The member that a caller's text names; a text that was not given reads `None`. -/
def require [Choice α] (action : String) (given : Option String) : Except Fault α :=
  match read? (shown given) with
  | some a => .ok a
  | none => .error (.failure action (.invalidChoice (title α) given (accepted α)))

/-- Title and name of a member. -/
def fullName [Choice α] (a : α) : String := title α ++ "." ++ label a

end Choice

/-- Where an aisle lies. -/
inductive AisleLocation
  | floor
  | storeRoom
deriving DecidableEq, Repr

instance : Choice AisleLocation where
  title := "AisleLocation"
  members := [.floor, .storeRoom]
  text | .floor => "floor" | .storeRoom => "store_room"
  label | .floor => "FLOOR" | .storeRoom => "STORE_ROOM"

/-- How high a shelf hangs. -/
inductive ShelfLevel
  | low
  | medium
  | high
deriving DecidableEq, Repr

instance : Choice ShelfLevel where
  title := "ShelfLevel"
  members := [.low, .medium, .high]
  text | .low => "low" | .medium => "medium" | .high => "high"
  label | .low => "LOW" | .medium => "MEDIUM" | .high => "HIGH"

/-- How warm a shelf or a product is kept. -/
inductive Temperature
  | frozen
  | refrigerated
  | ambient
  | warm
  | hot
deriving DecidableEq, Repr

instance : Choice Temperature where
  title := "Temperature"
  members := [.frozen, .refrigerated, .ambient, .warm, .hot]
  text
    | .frozen => "frozen" | .refrigerated => "refrigerated" | .ambient => "ambient"
    | .warm => "warm" | .hot => "hot"
  label
    | .frozen => "FROZEN" | .refrigerated => "REFRIGERATED" | .ambient => "AMBIENT"
    | .warm => "WARM" | .hot => "HOT"

/-- How stock is kept. -/
inductive InventoryType
  | standard
  | flexible
deriving DecidableEq, Repr

instance : Choice InventoryType where
  title := "InventoryType"
  members := [.standard, .flexible]
  text | .standard => "standard" | .flexible => "flexible"
  label | .standard => "STANDARD" | .flexible => "FLEXIBLE"

/-- Whether a customer has an account. -/
inductive CustomerType
  | guest
  | registered
deriving DecidableEq, Repr

instance : Choice CustomerType where
  title := "CustomerType"
  members := [.guest, .registered]
  text | .guest => "guest" | .registered => "registered"
  label | .guest => "GUEST" | .registered => "REGISTERED"

/-- The age group of a customer. -/
inductive AgeGroup
  | adult
  | child
  | senior
deriving DecidableEq, Repr

instance : Choice AgeGroup where
  title := "CustomerAgeGroup"
  members := [.adult, .child, .senior]
  text | .adult => "adult" | .child => "child" | .senior => "senior"
  label | .adult => "ADULT" | .child => "CHILD" | .senior => "SENIOR"

/-- Devices that only report. -/
inductive SensorType
  | microphone
  | camera
deriving DecidableEq, Repr

instance : Choice SensorType where
  title := "SensorType"
  members := [.microphone, .camera]
  text | .microphone => "microphone" | .camera => "camera"
  label | .microphone => "MICROPHONE" | .camera => "CAMERA"

/-- Devices that report and take commands. -/
inductive ApplianceType
  | speaker
  | robot
  | turnstile
deriving DecidableEq, Repr

instance : Choice ApplianceType where
  title := "ApplianceType"
  members := [.speaker, .robot, .turnstile]
  text | .speaker => "speaker" | .robot => "robot" | .turnstile => "turnstile"
  label | .speaker => "SPEAKER" | .robot => "ROBOT" | .turnstile => "TURNSTILE"

/-- What a device can do. -/
inductive DeviceKind
  | sensor
  | appliance
deriving DecidableEq, Repr

instance : Choice DeviceKind where
  title := "DeviceKind"
  members := [.sensor, .appliance]
  text | .sensor => "sensor" | .appliance => "appliance"
  label | .sensor => "SENSOR" | .appliance => "APPLIANCE"

/-- Whether a type of device senses or acts, by the text that a caller gives for the type. -/
def classifyDevice (type : String) : Except Fault DeviceKind :=
  if (Choice.read? (α := SensorType) type).isSome then .ok .sensor
  else if (Choice.read? (α := ApplianceType) type).isSome then .ok .appliance
  else .error (.failure "Provision Device" (.unknownDeviceType type))

end Shopfloor
