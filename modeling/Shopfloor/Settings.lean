import Shopfloor.Fault
import Shopfloor.Text.Case
/-!
# Settings

What can be set from the environment: the token that is shown to the shop, how
much is logged, and where the server listens. Whatever is not set has a
default. The name of a log level is kept in capitals; a port has to be a whole
number, and nothing else is asked of it. A null character has no place in an
environment.

## Main definitions

* `Settings`: What can be set.
* `Settings.ofEnvironment`: The settings in an environment.
-/

namespace Shopfloor

/-- What can be set from the environment. -/
structure Settings where
  token : String
  logLevel : String
  host : String
  port : Int
deriving DecidableEq, Repr

namespace Settings

/-- The variables that are looked at. -/
def tokenVariable : String := "SMART_STORE_TOKEN"
@[inherit_doc tokenVariable] def logLevelVariable : String := "SMART_STORE_LOG_LEVEL"
@[inherit_doc tokenVariable] def hostVariable : String := "SMART_STORE_HOST"
@[inherit_doc tokenVariable] def portVariable : String := "SMART_STORE_PORT"

/-- All of them; what they are set to has to have a place in an environment. -/
def watched : List String := [tokenVariable, logLevelVariable, hostVariable, portVariable]

/-- Whether a text has a null character in it, at which it would end outside. -/
def hasNull (s : String) : Bool := s.toList.contains (Char.ofNat 0)

/-- The settings in an environment. -/
def ofEnvironment (env : String → Option String) : Except Fault Settings := do
  if (watched.filterMap env).any hasNull then throw (.badValue .nullInside)
  let port ← wholeNumber ((env portVariable).getD "8000")
  return {
    token := (env tokenVariable).getD "admin"
    logLevel := Text.upper ((env logLevelVariable).getD "INFO")
    host := (env hostVariable).getD "127.0.0.1"
    port }

end Settings

end Shopfloor
