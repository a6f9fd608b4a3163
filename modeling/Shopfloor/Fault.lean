import Shopfloor.Number.Decimal
import Shopfloor.Text.Quoted
/-!
# Faults

What can end an operation, by cause.

A failure belongs to an action and has a cause; its kind, which outer layers
react to, and its wording follow from the cause. Two things are not failures
of this sort: a record whose fields do not have the form they must have, and a
value that cannot be read or written at all.

Ids appear in messages as the caller gave them. An id that was not given at
all is written `None`.

The words for a cause are made when an action fails, and a number among them can
be too long to be written. Then the action ends in that, and in no failure:
`Cause.fault` is what it ends in.

## Main definitions

* `Kind`: The kinds of failure.
* `Noun`: What the shop registers.
* `LineFlaw`: What can be wrong with a command line.
* `Cause`: Why an action failed; `Cause.kind`, `Cause.numbers` and `Cause.text`.
* `FieldFlaw`: What can be wrong with a field of a record.
* `ValueFlaw`: Why a value can be neither read nor written.
* `Fault`: What ends an operation.
* `Cause.fault`: What an action ends in for a cause.
* `Report`: A failure in words.
-/

namespace Shopfloor

/-- The kinds of failure that outer layers tell apart. -/
inductive Kind
  | general
  | notFound
  | duplicateEntity
  | invalidArgument
  | preconditionFailed
  | unsupportedOperation
  | parseError
  | ioFailure
deriving DecidableEq, Repr

/-- The name of a kind in answers. -/
def Kind.name : Kind → String
  | .general => "StoreError"
  | .notFound => "NotFound"
  | .duplicateEntity => "DuplicateEntity"
  | .invalidArgument => "InvalidArgument"
  | .preconditionFailed => "PreconditionFailed"
  | .unsupportedOperation => "UnsupportedOperation"
  | .parseError => "ParseError"
  | .ioFailure => "IOFailure"

/-- What the shop registers under an id. -/
inductive Noun
  | store
  | aisle
  | shelf
  | product
  | inventory
  | customer
  | basket
  | device
deriving DecidableEq, Repr

/-- The word for a registered thing. -/
def Noun.word : Noun → String
  | .store => "Store"
  | .aisle => "Aisle"
  | .shelf => "Shelf"
  | .product => "Product"
  | .inventory => "Inventory"
  | .customer => "Customer"
  | .basket => "Basket"
  | .device => "Device"

/-- An argument as a message shows it. -/
def shown : Option String → String
  | some s => s
  | none => "None"

/-- A number argument as a message shows it. -/
def shownInt : Option Int → String
  | some n => toString n
  | none => "None"

/-- What can be wrong with a command line. -/
inductive LineFlaw
  | openQuote
  | empty
  | missingObject (verb : String)
  | missingValue (keyword : String)
  | badLocation (parts : Int) (value : String)
  | unknownCommand (name : String)
  | missingId (name : String)
  | missingArgument (keyword name : String)
  | notInteger (keyword value : String)
  | notNumber (keyword value : String)
  | nothingToUpdate
deriving DecidableEq, Repr

/-- The form of a location with a given number of parts; a negative number leaves parts off at the
    end. -/
def locationForm (parts : Int) : String :=
  ":".intercalate (["store", "aisle", "shelf"].take (if parts < 0 then parts + 3 else parts).toNat)

/-- The words for a flaw of a command line. -/
def LineFlaw.text : LineFlaw → String
  | .openQuote => "No closing quotation"
  | .empty => "Empty command"
  | .missingObject verb => s!"Missing object for '{verb}'"
  | .missingValue keyword => s!"Missing value for '{keyword}'"
  | .badLocation parts value =>
    "Expected location " ++ locationForm parts ++ s!", got '{value}'"
  | .unknownCommand name => s!"Unknown command '{name}'"
  | .missingId name => s!"Missing id for '{name}'"
  | .missingArgument keyword name => s!"Missing '{keyword}' for '{name}'"
  | .notInteger keyword value => s!"'{keyword}' must be an integer, got '{value}'"
  | .notNumber keyword value => s!"'{keyword}' must be a number, got '{value}'"
  | .nothingToUpdate => "update store needs description or address"

/-- Why an action failed. -/
inductive Cause
  /-- The caller holds no token. -/
  | tokenMissing
  /-- Nothing is registered under an id. -/
  | absent (noun : Noun) (id : String)
  /-- Something is registered under an id already. -/
  | present (noun : Noun) (id : String)
  /-- A store lists the customer or basket already. -/
  | alreadyInStore (noun : Noun) (store id : String)
  /-- A store does not list the customer. -/
  | notInThatStore (store id : String)
  /-- A text names no member of a choice. -/
  | invalidChoice (title : String) (given : Option String) (accepted : String)
  | unknownDeviceType (given : String)
  | invalidPrice (price : Option Binary64)
  | negativeCount (count : Option Int)
  | smallCapacity (capacity : Option Int) (count : Int)
  | unknownProduct (product : Option String)
  /-- A change would take a count below zero. -/
  | belowZero (inventory : String) (count delta : Int)
  /-- A change would take a count above the capacity. -/
  | aboveCapacity (inventory : String) (count delta capacity : Int)
  | noBasket (customer : String)
  | basketTaken (basket owner : String)
  | basketHeld (customer held : String)
  | noStock (product : Option String)
  | unassigned (basket : String)
  | notInStore (customer : String)
  /-- The customer stands in another aisle than the inventory. -/
  | apart (standing inventory place : String)
  | quantityNotPositive (quantity : Option Int)
  | notEnough (product : String) (requested available : Int)
  | notInBasket (product : Option String) (basket : String)
  | invalidQuantity (quantity : Option Int) (product : String) (held : Int)
  /-- A sensor was sent a command. -/
  | sensor (device type : String)
  /-- A command line does not read as a command. -/
  | unreadable (line : String) (flaw : LineFlaw)
  /-- A file could not be read. -/
  | unreadableFile (error path : String)
deriving DecidableEq, Repr

/-- The kind of failure that a cause is reported as. -/
def Cause.kind : Cause → Kind
  | .absent .. | .notInThatStore .. | .noBasket .. | .noStock .. | .notInBasket .. => .notFound
  | .present .. | .alreadyInStore .. => .duplicateEntity
  | .tokenMissing | .invalidChoice .. | .unknownDeviceType .. | .invalidPrice .. | .negativeCount ..
  | .smallCapacity .. | .unknownProduct .. | .belowZero .. | .aboveCapacity ..
  | .quantityNotPositive .. | .notEnough .. | .invalidQuantity .. => .invalidArgument
  | .basketTaken .. | .basketHeld .. | .unassigned .. | .notInStore .. | .apart .. =>
    .preconditionFailed
  | .sensor .. => .unsupportedOperation
  | .unreadable .. => .parseError
  | .unreadableFile .. => .ioFailure

/-- The numbers that the words for a cause name. -/
def Cause.numbers : Cause → List Int
  | .negativeCount count => count.toList
  | .smallCapacity capacity count => capacity.toList ++ [count]
  | .belowZero _ count delta => [count, delta]
  | .aboveCapacity _ count delta capacity => [count, delta, capacity]
  | .quantityNotPositive quantity => quantity.toList
  | .notEnough _ requested available => [requested, available]
  | .invalidQuantity quantity _ held => quantity.toList ++ [held]
  | _ => []

/-- Whether the words for a cause can be made. -/
def Cause.isWritable (c : Cause) : Bool := c.numbers.all Number.writable

/-- A price argument as a message shows it. -/
def shownPrice : Option Binary64 → String
  | some x => Number.writeShortest x
  | none => "None"

/-- A reason with the command line it is about; an empty line is not shown. -/
def withLine (reason line : String) : String :=
  if line.isEmpty then reason else s!"{reason} [{line}]"

/-- The words for a change that would take a count below zero. -/
def belowZeroText (inventory count delta : String) : String :=
  s!"Inventory {inventory} Count Cannot Be Negative ({count}{delta})"

/-- The words for a change that would take a count above the capacity. -/
def aboveCapacityText (inventory count delta capacity : String) : String :=
  s!"Inventory {inventory} Count Exceeds Capacity ({count}{delta} > {capacity})"

/-- The words for a quantity that is not positive. -/
def notPositiveText (quantity : String) : String := s!"Quantity Must Be Positive: {quantity}"

/-- The words for a product that a basket does not hold. -/
def notInBasketText (product basket : String) : String :=
  s!"Product {product} Not In Basket {basket}"

/-- The words for a quantity that cannot be taken out of a basket. -/
def invalidQuantityText (quantity product held : String) : String :=
  s!"Invalid Quantity {quantity} For Product {product} (basket holds {held})"

/-- The words for a cause that has words. -/
def Cause.text : Cause → String
  | .tokenMissing => "Token Missing"
  | .absent noun id => noun.word ++ s!" Does Not Exist: {id}"
  | .present noun id => noun.word ++ s!" Already Exists: {id}"
  | .alreadyInStore noun store id => noun.word ++ s!" Already In Store {store}: {id}"
  | .notInThatStore store id => s!"Customer Not In Store {store}: {id}"
  | .invalidChoice title given accepted =>
    s!"Invalid {title} '" ++ shown given ++ s!"' (expected {accepted})"
  | .unknownDeviceType given => s!"Unknown Device Type '{given}'"
  | .invalidPrice price => "Invalid Unit Price: " ++ shownPrice price
  | .negativeCount count => "Count Cannot Be Negative: " ++ shownInt count
  | .smallCapacity capacity count =>
    "Capacity " ++ shownInt capacity ++ s!" Is Less Than Count {count}"
  | .unknownProduct product => "Unknown Product: " ++ shown product
  | .belowZero inventory count delta =>
    belowZeroText inventory (toString count) (Number.signed delta)
  | .aboveCapacity inventory count delta capacity =>
    aboveCapacityText inventory (toString count) (Number.signed delta) (toString capacity)
  | .noBasket customer => s!"Customer {customer} Has No Basket"
  | .basketTaken basket owner => s!"Basket {basket} Already Assigned To Customer {owner}"
  | .basketHeld customer held => s!"Customer {customer} Already Holds Basket {held}"
  | .noStock product => "No Inventory Holds Product " ++ shown product
  | .unassigned basket => s!"Basket {basket} Is Not Assigned To A Customer"
  | .notInStore customer => s!"Customer {customer} Is Not In A Store"
  | .apart standing inventory place =>
    s!"Customer Is In Aisle {standing} But Inventory {inventory} Is In {place}"
  | .quantityNotPositive quantity => notPositiveText (shownInt quantity)
  | .notEnough product requested available =>
    s!"Not Enough Inventory For Product {product}: requested {requested}, available {available}"
  | .notInBasket product basket => notInBasketText (shown product) basket
  | .invalidQuantity quantity product held =>
    invalidQuantityText (shownInt quantity) product (toString held)
  | .sensor device type => s!"Device {device} Is A Sensor ({type}) And Cannot Receive Commands"
  | .unreadable line flaw => withLine flaw.text line
  | .unreadableFile error path => s!"{error}: {path}"

/-- What can be wrong with a field of a record. -/
inductive FieldFlaw
  | missing
  | notText
  | notInteger
  /-- A text that writes no whole number. -/
  | noInteger
  /-- A number with a part behind the point. -/
  | brokenInteger
  | notFinite
  | longInteger
  | notNumber
  /-- A text that writes no number. -/
  | noNumber
  | notMoment
  /-- A text that writes no moment. -/
  | noMoment
  | notRecord
  | notMap
  | noChoice
  | belowZero
  | frozen
deriving DecidableEq, Repr

/-- The name of a flaw in answers. -/
def FieldFlaw.name : FieldFlaw → String
  | .missing => "missing"
  | .notText => "string_type"
  | .notInteger => "int_type"
  | .noInteger => "int_parsing"
  | .brokenInteger => "int_from_float"
  | .notFinite => "finite_number"
  | .longInteger => "int_parsing_size"
  | .notNumber => "float_type"
  | .noNumber => "float_parsing"
  | .notMoment => "datetime_type"
  | .noMoment => "datetime_from_date_parsing"
  | .notRecord => "model_type"
  | .notMap => "dict_type"
  | .noChoice => "enum"
  | .belowZero => "greater_than_equal"
  | .frozen => "frozen_instance"

/-- Why a value can be neither read nor written. -/
inductive ValueFlaw
  /-- A number has more digits than are written. -/
  | longNumber
  /-- A numeral has more digits than are read. -/
  | longNumeral (digits : Nat)
  | noInteger (text : String)
  | noNumber (text : String)
  /-- A value of a sort that cannot be laid out in a given form. -/
  | wrongForm (form sort : String)
  /-- A record has no such field. -/
  | noField (record field : String)
  /-- A text that the world outside reads only up to its null character. -/
  | nullInside
  | foreignHeader
deriving DecidableEq, Repr

/-- The longest numeral, as a message names it. -/
def digitBound : String :=
  "Exceeds the limit (" ++ toString Number.digitLimit ++ " digits) for integer string conversion"

/-- What a message advises about the longest numeral. -/
def digitAdvice : String := "; use sys.set_int_max_str_digits() to increase the limit"

/-- The words for a flaw of a value. A text that is no integer is quoted, at most two hundred
    characters of it. -/
def ValueFlaw.text : ValueFlaw → String
  | .longNumber => digitBound ++ digitAdvice
  | .longNumeral digits => digitBound ++ s!": value has {digits} digits" ++ digitAdvice
  | .noInteger text =>
    "invalid literal for int() with base 10: " ++ String.ofList ((Text.quote text).toList.take 200)
  | .noNumber text => "could not convert string to float: " ++ Text.quote text
  | .wrongForm form sort => s!"Unknown format code '{form}' for object of type '{sort}'"
  | .noField record field => s!"\"{record}\" object has no field \"{field}\""
  | .nullInside => "embedded null byte"
  | .foreignHeader => "string argument should contain only ASCII characters"

/-- What ends an operation. -/
inductive Fault
  /-- An action failed for a cause. -/
  | failure (action : String) (cause : Cause)
  /-- A record was refused for its fields, in the order in which they are declared. -/
  | badRecord (fields : List (String × FieldFlaw))
  /-- A value can be neither read nor written. -/
  | badValue (flaw : ValueFlaw)
deriving DecidableEq, Repr

/-- What an action ends in for a cause: in a failure, or in the number that has no words. -/
def Cause.fault (action : String) (c : Cause) : Fault :=
  if c.isWritable then .failure action c else .badValue .longNumber

/-- The fault of a text that writes no whole number. -/
def Fault.ofNumeral (text : String) : Number.Flaw → Fault
  | .malformed => .badValue (.noInteger text)
  | .tooLong digits => .badValue (.longNumeral digits)

/-- The whole number that a text has to write. -/
def wholeNumber (s : String) : Except Fault Int :=
  (Number.readInt s).mapError (Fault.ofNumeral s)

/-- The number that a text has to write. -/
def decimalNumber (s : String) : Except Fault Binary64 :=
  (Number.readDecimal s).elim (.error (.badValue (.noNumber s))) .ok

/-- The refusal of a record for the fields that have no text. -/
def Fault.withoutText (fields : List (String × Option String)) : Fault :=
  .badRecord (fields.filterMap fun f => if f.2.isNone then some (f.1, .notText) else none)

/-- A failure in words. -/
structure Report where
  kind : Kind
  action : String
  reason : String
  /-- The command line that a parse error is about. -/
  line : Option String
  /-- The name of the error that stopped the reading of a file. -/
  errorName : Option String
  /-- The file that could not be read. -/
  path : Option String
deriving DecidableEq, Repr

/-- Action and reason in one line. -/
def Report.message (r : Report) : String := s!"{r.action}: {r.reason}"

/-- The action that reading a command line is. -/
def parseAction : String := "Parse Command"

/-- The action that replaying a file is. -/
def replayAction : String := "Process Command File"

/-- The failure of reading a command line. -/
def Fault.unreadable (line : String) (flaw : LineFlaw) : Fault :=
  .failure parseAction (.unreadable line flaw)

/-- A report that is about neither a line nor a file. -/
def Report.plain (kind : Kind) (action reason : String) : Report :=
  ⟨kind, action, reason, none, none, none⟩

/-- The report of a command line that could not be read. -/
def Report.ofLine (reason line : String) : Report :=
  ⟨.parseError, parseAction, withLine reason line, some line, none, none⟩

/-- The report of a file that could not be read. -/
def Report.ofFile (errorName path : String) : Report :=
  ⟨.ioFailure, replayAction, s!"{errorName}: {path}", none, some errorName, some path⟩

/-- The report of a failure. -/
def Cause.report (action : String) : Cause → Report
  | .unreadable line flaw => .ofLine flaw.text line
  | .unreadableFile error path => .ofFile error path
  | c => .plain c.kind action c.text

end Shopfloor
