import ControlInterface.Catalog.Additive
import ControlInterface.Catalog.Contract
import ControlInterface.Catalog.Evolution
import ControlInterface.Catalog.Forwarding
import ControlInterface.Catalog.Positional
import ControlInterface.Catalog.Responses
import ControlInterface.Catalog.Sessions
import ControlInterface.Catalog.Tiers
import ControlInterface.ChiaPeer
import ControlInterface.CoinPage
import ControlInterface.CursorOrder
import ControlInterface.Disclosure
import ControlInterface.Params.Validation
import ControlInterface.PeerSoftware
import ControlInterface.PhaseToken
import ControlInterface.Reference.Delivery
import ControlInterface.Reference.Enrolment
import ControlInterface.Reference.Independence
import ControlInterface.Reference.Margin
import ControlInterface.Reference.Reservations
import ControlInterface.Reference.Spends
import ControlInterface.Results.Verdict
import ControlInterface.SpendAsset
import ControlInterface.SyncPhase
