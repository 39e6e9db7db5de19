import TicketCheckout.Auth.Credentials
import TicketCheckout.Auth.Secret
import TicketCheckout.Auth.Token
import TicketCheckout.Checkout.Cart
import TicketCheckout.Checkout.Failure
import TicketCheckout.Checkout.Offer
import TicketCheckout.Checkout.Order
import TicketCheckout.Checkout.Payment
import TicketCheckout.Checkout.Principal
import TicketCheckout.Checkout.Seat
import TicketCheckout.Checkout.Status
import TicketCheckout.Clock
import TicketCheckout.Digest.Hmac
import TicketCheckout.Digest.Sha256
import TicketCheckout.Digest.Sha512
import TicketCheckout.Gateway.Address
import TicketCheckout.Gateway.Basic
import TicketCheckout.Gateway.Host
import TicketCheckout.Gateway.IpAddress
import TicketCheckout.Json.Basic
import TicketCheckout.Json.Bytes
import TicketCheckout.Json.Coerce
import TicketCheckout.Json.Display
import TicketCheckout.Json.Reader
import TicketCheckout.Json.Writer
import TicketCheckout.Log.AccessLevel
import TicketCheckout.Log.CallArguments
import TicketCheckout.Log.Mask
import TicketCheckout.Number.Binary64
import TicketCheckout.Number.Decimal
import TicketCheckout.Number.DecimalText
import TicketCheckout.Number.Extended
import TicketCheckout.Number.FloatText
import TicketCheckout.Proofs.Admission
import TicketCheckout.Proofs.Atomicity
import TicketCheckout.Proofs.Calls
import TicketCheckout.Proofs.Codes
import TicketCheckout.Proofs.Completion
import TicketCheckout.Proofs.Coupling
import TicketCheckout.Proofs.GuardedUpdates
import TicketCheckout.Proofs.Keys
import TicketCheckout.Proofs.Moves
import TicketCheckout.Proofs.Pricing
import TicketCheckout.Proofs.Rollback
import TicketCheckout.Proofs.Run
import TicketCheckout.Proofs.Seats
import TicketCheckout.Proofs.StoredCents
import TicketCheckout.Proofs.Tickets
import TicketCheckout.Schema.Lax
import TicketCheckout.Schema.OrderRequest
import TicketCheckout.Schema.Settings
import TicketCheckout.Service.Command
import TicketCheckout.Service.Manage
import TicketCheckout.Service.PlaceOrder
import TicketCheckout.Service.Session
import TicketCheckout.Service.Settle
import TicketCheckout.Service.Sweep
import TicketCheckout.Store.Amount
import TicketCheckout.Store.Fixture
import TicketCheckout.Store.Ledger
import TicketCheckout.Store.Records
import TicketCheckout.Store.Tables
import TicketCheckout.Text.Base64Url
import TicketCheckout.Text.Blank
import TicketCheckout.Text.DecimalDigit
import TicketCheckout.Text.Hex
import TicketCheckout.Text.Idna
import TicketCheckout.Text.IdnaData
import TicketCheckout.Text.IntLiteral
import TicketCheckout.Text.LowerCase
import TicketCheckout.Text.Normalization
import TicketCheckout.Text.Printable
import TicketCheckout.Text.Punycode
import TicketCheckout.Text.Utf8
import TicketCheckout.Text.WordChar
import TicketCheckout.View.Records
import TicketCheckout.View.Response
import TicketCheckout.View.Snapshot
import TicketCheckout.Web.ErrorResponse
import TicketCheckout.Webhook.Event
import TicketCheckout.Webhook.Signature
import TicketCheckout.Proofs.Finality
import TicketCheckout.Proofs.Placement
import TicketCheckout.Proofs.Unwind
import TicketCheckout.Proofs.Undo
import TicketCheckout.Proofs.Cancel
import TicketCheckout.Proofs.Sweep
import TicketCheckout.Proofs.Rounding
import TicketCheckout.Proofs.CartRules
import TicketCheckout.Proofs.CallbackSignatures
import TicketCheckout.Proofs.CallbackOutcomes
import TicketCheckout.Proofs.ReadBack
import TicketCheckout.Proofs.MaskedText
import TicketCheckout.Proofs.BindingCalls
import TicketCheckout.Proofs.ProcessorReplies
import TicketCheckout.Proofs.Authentication
