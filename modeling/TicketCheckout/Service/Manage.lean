import TicketCheckout.Checkout.Principal
import TicketCheckout.Service.Settle

/-!
# Managing orders

A buyer (or an administrator) can look at an order and cancel it while it is pending.

* Looking at an order gives the order, its payment and its tickets in issue order; only the
  buyer and administrators may look.
* Cancelling fails the pending payment first, so that a late success report cannot complete the
  order, then cancels the order and gives back what it held. A payment already settled wins:
  the cancel is refused and nothing changes.
-/

namespace TicketCheckout

/-- An order with its payment and tickets. -/
structure OrderDetail where
  order : Order
  payment : Option Payment
  tickets : List Ticket

namespace Service

/-- The order with a reference, for a caller allowed to see it. -/
def orderDetail (caller : Principal) (ref : OrderRef) : Service OrderDetail := do
  let some order ← loadOrder? ref | fail (.notFound "Order not found")
  if !caller.canAccess order.userId then fail (.forbidden "Access denied")
  let s ← store
  let payment ← match s.paymentOf? ref with
    | some row => some <$> lift row.toPayment
    | none => pure none
  let tickets ← (s.ticketsOf ref).mapM fun row => lift row.toTicket
  pure ⟨order, payment, tickets⟩

/-- Cancels a pending order for its buyer or an administrator; see the module comment. -/
def cancelOrder (caller : Principal) (ref : OrderRef) : Service Order := do
  let now ← Service.now
  unitOfWork do
    let some order ← loadOrder? ref | fail (.notFound "Order not found")
    if !caller.canAccess order.userId then
      fail (.forbidden "Only the buyer can cancel this order")
    let cancelled ← lift (order.moveTo .cancel now)
    if !(← update (·.settleOf ref .failed)) then
      fail (.conflict "Payment for this order is already settled")
    if !(← update (·.moveOrder ref .cancelled now)) then
      fail (.conflict "Order is no longer pending")
    releaseInventory order
    pure (cancelled, true)

end Service

end TicketCheckout
