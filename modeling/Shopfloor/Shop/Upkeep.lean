import Shopfloor.Shop
/-!
# Upkeep

What the keeper of the records can do to them directly. Nothing here looks
after what refers to what: a store may go while customers are in it, and a
registration may be withdrawn while a store still lists it.

## Main definitions

* `Shop.discardStore`: Takes a store off the records, and nothing else.
* `Shop.withdrawProduct`, `Shop.withdrawCustomer`, `Shop.withdrawBasket`: The same for what is
  registered outside stores.
* `Shop.reset`: Takes everything off the records but the log.
* `Shop.clearEvents`: Empties the log.
-/

namespace Shopfloor

namespace Shop

/-- Takes a store off the records. -/
def discardStore (shop : Shop) (id : Option String) : Shop :=
  match id with
  | some id => { shop with stores := shop.stores.erase id }
  | none => shop

/-- Withdraws a product. -/
def withdrawProduct (shop : Shop) (id : String) : Shop :=
  { shop with products := shop.products.erase id }

/-- Withdraws a customer; where a store lists them, the listing lapses. -/
def withdrawCustomer (shop : Shop) (id : String) : Shop :=
  if shop.customers.contains id then
    { shop with
      customers := shop.customers.erase id
      stores := shop.stores.mapValues fun _ s =>
        { s with customers := s.customers.adjust id fun _ => .lapsed } }
  else shop

/-- Withdraws a basket; where a store lists it, the listing lapses. -/
def withdrawBasket (shop : Shop) (id : String) : Shop :=
  if shop.baskets.contains id then
    { shop with
      baskets := shop.baskets.erase id
      stores := shop.stores.mapValues fun _ s =>
        { s with baskets := s.baskets.adjust id fun _ => .lapsed } }
  else shop

/-- Takes everything off the records but the log. -/
def reset (shop : Shop) : Shop := { Shop.empty with events := shop.events }

/-- Empties the log. -/
def clearEvents (shop : Shop) : Shop := { shop with events := [] }

end Shop

end Shopfloor
