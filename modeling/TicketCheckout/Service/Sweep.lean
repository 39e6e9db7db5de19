import TicketCheckout.Service.Settle

/-!
# The expiry sweep

A sweep closes what buyers abandoned, in two passes.

1. Every pending order whose window has closed, earliest first and at most a batch of them, is
   cancelled in a unit of work of its own: its payment is failed first (an order whose payment
   was settled meanwhile is left alone), then the order is cancelled and what it held is given
   back. An order that cannot be expired is skipped and not counted.
2. Every seat lock that has expired goes back to available, unless its order is still pending:
   that order's own expiry releases it.

Each pass records how many it released.
-/

namespace TicketCheckout

/-- What a sweep released. -/
structure SweepResult where
  expiredOrders : Nat
  releasedLocks : Nat

namespace Service

/-- Expires one order at `now`; tells whether it did. -/
def expireOrder (ref : OrderRef) (now : Instant) : Service Bool :=
  unitOfWork do
    if !(← update (·.settleOf ref .failed)) then return (false, false)
    if !(← update (·.moveOrder ref .cancelled now)) then return (false, false)
    if let some order ← loadOrder? ref then releaseInventory order
    pure (true, true)

/-- Expires the given orders one by one; gives how many were expired. -/
def expireOrders (now : Instant) : List OrderRef → Service Nat
  | [] => pure 0
  | ref :: rest => do
    let done ← attempt (expireOrder ref now)
    let n ← expireOrders now rest
    pure (match done with
      | .ok true => n + 1
      | _ => n)

/-- One sweep at `now` with a batch size; see the module comment. -/
def sweep (now : Instant) (batchSize : Int) : Service SweepResult := do
  let due ← lift ((← store).expiredPending now batchSize)
  let expired ← expireOrders now due
  record (.reaperRelease .expiredOrder expired)
  let released ← update (·.releaseExpiredLocks now)
  record (.reaperRelease .seatLock released)
  pure ⟨expired, released⟩

end Service

end TicketCheckout
