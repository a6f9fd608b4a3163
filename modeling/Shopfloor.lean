import Shopfloor.Main
import Shopfloor.Proofs.Account.Header
import Shopfloor.Proofs.Archive
import Shopfloor.Proofs.Bench.Stock
import Shopfloor.Proofs.Bus.Delivery
import Shopfloor.Proofs.Bus.Listeners
import Shopfloor.Proofs.Closing
import Shopfloor.Proofs.EitherOrder
import Shopfloor.Proofs.Ledger
import Shopfloor.Proofs.Order
import Shopfloor.Proofs.Ownership
import Shopfloor.Proofs.Picking.AnyOrder
import Shopfloor.Proofs.Rest.Created
import Shopfloor.Proofs.Script.Barred
import Shopfloor.Proofs.Script.Furnishing
import Shopfloor.Proofs.Script.Keyword
import Shopfloor.Proofs.Script.Location
import Shopfloor.Proofs.Trade.Inverse
import Shopfloor.Proofs.Trade.PutBack
import Shopfloor.Proofs.Trade.Standing
import Shopfloor.Proofs.Whereabouts
