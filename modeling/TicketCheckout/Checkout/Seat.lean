import TicketCheckout.Checkout.Order

/-!
# Seats

A reserved seat of an event, sold under one ticket tier. A seat is locked for an order while a
buyer pays, until the lock expires; a lock whose expiry has passed no longer holds, even before
a sweep returns the seat.
-/

namespace TicketCheckout

/-- A seat of an event. -/
structure Seat where
  eventId : Int
  seatId : Int
  tierId : Int
  status : SeatStatus
  lockExpiresAt : Option Instant
  holder : Option OrderRef

/-- Whether the seat is locked at `now`: its status is locked and the lock expires later. -/
def Seat.isLockedAt (s : Seat) (now : Instant) : Bool :=
  s.status == .locked && s.lockExpiresAt.any (fun e => decide (now < e))

theorem Seat.isLockedAt_available (s : Seat) (now : Instant) (h : s.status = .available) :
    s.isLockedAt now = false := by
  simp [isLockedAt, h]

end TicketCheckout
