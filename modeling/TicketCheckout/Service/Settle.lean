import TicketCheckout.Service.Session

/-!
# Settling payments

The processor reports a payment intent as succeeded or failed; either report may come more than
once, and may race the expiry sweep. The guarded move of the payment out of pending decides:
only the first report that finds the payment pending has an effect.

* A success completes the order, marks its seats sold and issues its tickets. If the payment was
  not pending the report is a duplicate, or a charge after the order had already closed when
  the payment is failed; nothing changes. If a seat of the order is no longer held by it,
  nothing is kept and the payment stays pending.
* A failure fails the order and gives back what it held (`releaseInventory`): its
  general-admission units and the seat locks it still holds.
-/

namespace TicketCheckout

namespace Service

/-- Gives back what an order holds: the units of its general-admission lines, and the locks on
its seats that it still holds (a seat it no longer holds is skipped). -/
def releaseInventory (o : Order) : Service Unit :=
  o.lines.forM fun l =>
    match l.seatId with
    | none => write (·.release l.offerId l.quantity)
    | some seat => do
      match (← store).unlockSeat l.eventId seat (some o.ref) with
      | .ok s => setStore s
      | .error (.seatTaken _) => pure ()
      | .error f => fail f

/-- The stored order with a reference, as an order. -/
def loadOrder? (ref : OrderRef) : Service (Option Order) := do
  match (← store).order? ref with
  | some row => some <$> lift row.toOrder
  | none => pure none

/-- The seats of an order's seat lines, as event and seat. -/
def orderSeats (o : Order) : List (Int × Int) :=
  o.lines.filterMap fun l => l.seatId.map fun s => (l.eventId, s)

/-- Records why a success report found no pending payment. -/
def recordNotPending (intent : String) : Service Unit := do
  match (← store).paymentByReference? intent with
  | some row =>
    let p ← lift row.toPayment
    record (.payment (if p.status == .failed then .chargedAfterExpiry else .duplicate))
  | none => record (.payment .duplicate)

/-- Completes the order paid through `intent` and issues its tickets; nothing when the payment
was not pending. -/
def finalizePayment (intent : String) : Service (Option (List Ticket)) := do
  let now ← Service.now
  unitOfWork do
    match ← update (·.settleByReference intent .succeeded) with
    | none =>
      recordNotPending intent
      pure (none, false)
    | some ref =>
      let some order ← loadOrder? ref
        | fail (.notFound s!"Order {ref.label} not found for intent {intent}")
      if !order.isPending then fail (.conflict s!"Order {ref.label} is no longer pending")
      let order ← lift (order.moveTo .complete now)
      if !(← update (·.moveOrder ref .completed now)) then
        fail (.conflict s!"Order {ref.label} is no longer pending")
      let seats := orderSeats order
      let sold ← change (·.markSeatsSold ref seats)
      if sold != seats.length then
        record (.payment .seatConflict)
        fail (.seatTaken
          s!"Order {ref.label}: only {sold}/{seats.length} seats are still held by this order")
      let units := (order.lines.map fun l => l.quantity.toNat).foldl (· + ·) 0
      let first ← takeCodes units
      let tickets := order.issueTickets now first
      write fun s => do s.insertTickets (← tickets.mapM Store.ticketRow)
      record (.payment .completed)
      pure (some tickets, true)

/-- Fails the order of a failed payment and gives back what it held; nothing when the payment
was not pending. -/
def failPayment (intent : String) : Service (Option Order) := do
  let now ← Service.now
  unitOfWork do
    match ← update (·.settleByReference intent .failed) with
    | none =>
      record (.payment .duplicate)
      pure (none, false)
    | some ref =>
      let some order ← loadOrder? ref
        | fail (.notFound s!"Order {ref.label} not found for intent {intent}")
      if !(← update (·.moveOrder ref .failed now)) then
        fail (.conflict s!"Order {ref.label} is no longer pending")
      releaseInventory order
      record (.payment .failed)
      let failed ← lift (order.moveTo .fail now)
      pure (some failed, true)

end Service

end TicketCheckout
