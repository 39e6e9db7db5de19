import TicketCheckout.Schema.OrderRequest
import TicketCheckout.Schema.Settings
import TicketCheckout.Service.Sweep
import TicketCheckout.View.Response
import TicketCheckout.View.Snapshot
import TicketCheckout.Webhook.Event

/-!
# Commands

The calls an operator or a client makes on a running checkout service, each answered with a
JSON value: the service calls (place, pay, fail, cancel and look at orders, sweep expired
reservations, receive gateway callbacks), the same calls through the web layer (request bodies
parsed, web responses), and single calls on the inventory ledger, each its own unit of work.
A web checkout whose response cannot be built has still placed its order, but the buyer never
learns of it, so the order is unreported (`Service.unreport`).

`Session.perform` hears of the order references a command names, runs it at the session's
clock and reports, besides its answer, the metrics it recorded, the requests it sent to the card
processor and the store it left behind.
-/

namespace TicketCheckout

open Schema

/-- The gateway a checkout uses: the card processor behind the requested script, or behind
`fallback` when the settings choose the processor; the local gateway otherwise. -/
def Schema.Settings.gatewayFor (s : Settings) (requested : Option Gateway.ProcessorScript)
    (fallback : Gateway.ProcessorScript) : Gateway.Kind :=
  match requested with
  | some script => .processor script
  | none => if s.gatewayMode == "stripe" then .processor fallback else .local

/-- The checkout rules of the settings, with a gateway. -/
def Schema.Settings.checkoutRules (s : Settings) (gateway : Gateway.Kind) : CheckoutRules :=
  ⟨⟨s.maxItems, s.maxTickets⟩, s.feePerTicket, s.windowMinutes, s.currency, gateway⟩

/-- A call on the running service; see the module comment. -/
inductive Command where
  | placeOrder (rules : CheckoutRules) (caller : Principal) (lines : List CartLine)
  | submitOrder (rules : CheckoutRules) (caller : Principal) (body : Json)
  | confirmPayment (intent : String)
  | failPayment (intent : String)
  | cancelOrder (caller : Principal) (ref : OrderRef)
  | submitCancel (caller : Principal) (ref : OrderRef)
  | viewOrder (caller : Principal) (ref : OrderRef)
  | submitView (caller : Principal) (ref : OrderRef)
  | sweep (batchSize : Int)
  | sweepQuietly (batchSize : Int)
  | callback (secret : List UInt8) (tolerance : Webhook.Seconds) (body : List UInt8)
    (header : Option String)
  | reserve (offerId quantity : Int)
  | release (offerId quantity : Int)
  | lockSeat (eventId seatId tierId : Int) (expiresAt : Instant) (holder : OrderRef)
  | unlockSeat (eventId seatId : Int) (holder : Option OrderRef)
  | markSeatsSold (holder : OrderRef) (seats : List (Int × Int))
  | releaseExpiredLocks
  | seat (eventId seatId : Int)
  | offer (offerId : Int)
  | expiredPending (limit : Int)
  | paymentByReference (reference : String)

/-- The order references a command names. -/
def Command.refs : Command → List OrderRef
  | .cancelOrder _ r | .submitCancel _ r | .viewOrder _ r | .submitView _ r => [r]
  | .lockSeat _ _ _ _ r | .markSeatsSold r _ => [r]
  | .unlockSeat _ _ r => r.toList
  | _ => []

/-- The answer to a placed order. -/
def View.placement (p : Placement) : Except Failure Json := do
  pure (.obj [("order", ← View.order p.order), ("client_secret", p.clientSecret)])

/-- The answer to looking at an order. -/
def View.detail (d : OrderDetail) : Except Failure Json := do
  pure (.obj [("order", ← View.order d.order),
    ("payment", match d.payment with
      | some p => View.payment p
      | none => .null),
    ("tickets", View.tickets d.tickets)])

/-- The answer to a sweep. -/
def View.sweep (r : SweepResult) : Json :=
  .obj [("expired_orders", .int r.expiredOrders), ("released_locks", .int r.releasedLocks)]

namespace Command

open Service

/-- Runs a command; gives its answer. -/
def run : Command → Service Json
  | .placeOrder rules caller lines => do
    lift rules.gateway.connect
    lift (View.placement (← Service.placeOrder rules caller lines))
  | .submitOrder rules caller body => do
    lift rules.gateway.connect
    let lines ← lift ((orderRequest body).mapError Failure.invalidFields)
    let placement ← Service.placeOrder rules caller lines
    match View.checkoutResponse placement with
    | .ok answer => pure answer
    | .error f => do
      Service.unreport placement.order.ref
      fail f
  | .confirmPayment intent => do
    match ← finalizePayment intent with
    | some tickets => pure (View.tickets tickets)
    | none => pure .null
  | .failPayment intent => do
    match ← Service.failPayment intent with
    | some order => lift (View.order order)
    | none => pure .null
  | .cancelOrder caller ref => do lift (View.order (← Service.cancelOrder caller ref))
  | .submitCancel caller ref => do
    lift (View.orderResponse (← Service.cancelOrder caller ref))
  | .viewOrder caller ref => do lift (View.detail (← orderDetail caller ref))
  | .submitView caller ref => do lift (View.detailResponse (← orderDetail caller ref))
  | .sweep batchSize => do pure (View.sweep (← Service.sweep (← now) batchSize))
  | .sweepQuietly batchSize => do
    let _ ← attempt (Service.sweep (← now) batchSize)
    pure .null
  | .callback secret tolerance body header => do
    pure (View.acknowledgement (← Webhook.receive secret tolerance body header))
  | .reserve offerId quantity => do
    atomically (write (·.reserve offerId quantity))
    pure .null
  | .release offerId quantity => do
    atomically (write (·.release offerId quantity))
    pure .null
  | .lockSeat eventId seatId tierId expiresAt holder => do
    atomically (write (·.lockSeat eventId seatId tierId expiresAt holder))
    pure .null
  | .unlockSeat eventId seatId holder => do
    atomically (write (·.unlockSeat eventId seatId holder))
    pure .null
  | .markSeatsSold holder seats => do
    pure (.int (← atomically (change (·.markSeatsSold holder seats))))
  | .releaseExpiredLocks => do
    let t ← now
    pure (.int (← atomically (update (·.releaseExpiredLocks t))))
  | .seat eventId seatId => do
    match ← lift ((← store).seatEntity? eventId seatId) with
    | some s => pure (View.seat s (← now))
    | none => pure .null
  | .offer offerId => do
    match ← lift ((← store).findOffer offerId) with
    | some o => pure (View.offer o.toOffer)
    | none => pure .null
  | .expiredPending limit => do
    let due ← lift ((← store).expiredPending (← now) limit)
    pure (.arr (due.map fun r => .str r.label))
  | .paymentByReference reference => do
    match (← store).paymentByReference? reference with
    | some row => pure (View.payment (← lift row.toPayment))
    | none => pure .null

end Command

/-- What running one command showed. -/
structure Outcome where
  answer : Except Failure Json
  metrics : List Metric
  requests : List Gateway.Request
  snapshot : Json

/-- Runs a command at the session's clock; see the module comment. -/
def Session.perform (s : Session) (c : Command) : Outcome × Session :=
  let fresh := { s.hearOf c.refs with metrics := [], requests := [] }
  let (answer, s') : Except Failure Json × Session := match c.run fresh with
    | .ok a s' => (.ok a, s')
    | .error e s' => (.error e, s')
  (⟨answer, s'.metrics, s'.requests, View.snapshot s'.store⟩, s')

end TicketCheckout
