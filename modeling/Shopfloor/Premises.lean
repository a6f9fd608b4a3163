import Shopfloor.Account
import Shopfloor.Shop.Upkeep
/-!
# Premises

A shop together with the accounts that may use it from outside. Both are kept
in one place, so whoever empties the place empties both; only the log of the
devices is kept elsewhere and stays.

## Main definitions

* `Premises`: A shop and its accounts.
* `Premises.opened`: As a new shop opens.
* `Premises.reset`: Emptying the place where both are kept.
-/

namespace Shopfloor

/-- A shop and the accounts that may use it. -/
structure Premises where
  shop : Shop
  accounts : Accounts
deriving DecidableEq, Repr

/-- An empty shop with the standard accounts. -/
def Premises.opened : Premises := ⟨.empty, .standard⟩

/-- Empties the place where both are kept. -/
def Premises.reset (p : Premises) : Premises := ⟨p.shop.reset, .empty⟩

end Shopfloor
