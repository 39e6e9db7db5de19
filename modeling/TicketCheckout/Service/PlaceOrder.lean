import TicketCheckout.Checkout.Cart
import TicketCheckout.Checkout.Principal
import TicketCheckout.Json.Display
import TicketCheckout.Service.Session

/-!
# Placing an order

Checkout turns a cart into a pending order with a payment intent, in one unit of work:

1. the cart is validated, before anything is touched;
2. every line, in order, finds its offer; a seat line locks the seat (under the offer's event and
   tier) for the new order until the reservation window closes, a general-admission line
   reserves its units;
3. the order is priced at the offers' prices and stored;
4. the gateway opens an intent for the total in minor units, and the pending payment is stored
   under the intent's id.

Any failure undoes every reservation of the cart. The outcome is recorded as a metric: a
conflict also records whether a seat or general admission was contended.
-/

namespace TicketCheckout

/-- The rules of checkout. -/
structure CheckoutRules where
  limits : CartLimits
  feePerTicket : Number.Decimal
  windowMinutes : Int
  currency : String
  gateway : Gateway.Kind

/-- A placed order with the secret its payment is confirmed with. -/
structure Placement where
  order : Order
  clientSecret : Json

/-- The text an intent id is stored as: a text as it is, an integer as its digits when it fits
in 64 bits, a binary64 number as its general text with 15 digits (`Binary64.toGeneralText`), a
truth value as `1` or `0`; a missing id cannot be stored, nor can a list or an object. -/
def intentReference (id : Json) : Except Failure String :=
  match id with
  | .str s => .ok s
  | .int n =>
    if -Int.pow 2 63 ≤ n && n < Int.pow 2 63 then .ok (toString n) else .error .outOfRange
  | .bool b => .ok (if b then "1" else "0")
  | .null => .error .constraintViolated
  | .num x => .ok (x.toGeneralText 15)
  | .arr _ | .obj _ => .error .wrongType

namespace Service

/-- Reserves one cart line for order `ref` until `expiresAt`; gives the order line priced at the
offer's price. -/
def reserveLine (ref : OrderRef) (expiresAt : Instant) (line : CartLine) : Service OrderLine := do
  match ← lift ((← store).findOffer line.offerId) with
  | none => fail (.notFound s!"Offer {line.offerId} not found")
  | some offer =>
    match line.seatId with
    | some seat => write (·.lockSeat offer.eventId seat offer.tierId expiresAt ref)
    | none => write (·.reserve offer.id line.quantity)
    pure ⟨offer.id, offer.eventId, offer.tierId, line.seatId, line.quantity,
      Store.readAmount offer.price⟩

/-- Steps 2 to 4 of checkout, as one unit of work. -/
def checkout (rules : CheckoutRules) (buyer : Principal) (lines : List CartLine) :
    Service Placement := do
  let now ← Service.now
  let expiresAt ← match now.addMinutes rules.windowMinutes with
    | some e => pure e
    | none => fail .outOfRange
  atomically do
    let ref := OrderRef.placed ((← get).placed + 1)
    let orderLines ← lines.mapM (reserveLine ref expiresAt)
    let order ← lift (Order.place ref buyer.id orderLines rules.feePerTicket rules.currency
      expiresAt now)
    write fun s => do s.insertOrder (← Store.orderRow order)
    let amount ← lift (minorUnits order.total)
    let intent ← rules.gateway.openIntent amount order.currency
    let charged ← lift (Store.storeAmount order.total)
    let reference ← lift (intentReference intent.id)
    write (·.insertPayment ⟨ref, PaymentStatus.pending.name, charged, order.currency, reference,
      now⟩)
    modify fun s => { s with placed := s.placed + 1 }
    Service.hear ref
    pure ⟨order, intent.clientSecret⟩

/-- The metric outcome of a failed checkout. -/
def checkoutOutcome (f : Failure) : OrderOutcome :=
  if f.isConflict then .conflict
  else match f with
    | .rejected .. | .notFound _ => .invalid
    | .gatewayFailed _ => .gatewayError
    | _ => .error

/-- Places an order for a cart; see the module comment. -/
def placeOrder (rules : CheckoutRules) (buyer : Principal) (lines : List CartLine) :
    Service Placement := do
  let result ← attempt do
    lift (validateCart rules.limits lines)
    checkout rules buyer lines
  match result with
  | .ok placement =>
    record (.order .created)
    pure placement
  | .error f =>
    if f.isConflict then
      record (.inventoryConflict (match f with
        | .seatTaken _ => .seat
        | _ => .generalAdmission))
    record (.order (checkoutOutcome f))
    fail f

/-- Takes back the number of the last order placed when its buyer could not be told about it:
the order stays, under the name of an unreported order numbered by how many order references
the session had heard of besides it, and the next order placed takes the number. -/
def unreport (ref : OrderRef) : Service Unit :=
  modify fun ss =>
    let others := ss.known.erase ref
    let name := OrderRef.unreported others.length
    { ss with store := ss.store.renameOrder ref name, known := others ++ [name],
              placed := ss.placed - 1 }

end Service

end TicketCheckout
