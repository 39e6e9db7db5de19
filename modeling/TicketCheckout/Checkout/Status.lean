/-!
# Statuses

The life cycles of orders, payments, seats and tickets. The store keeps a status as its name,
so a name that no status has can be stored and is refused only when a row is read back as an
entity (`ofName?` gives `none`).
-/

namespace TicketCheckout

/-- Where an order stands. Only a pending order moves, to completed, failed or cancelled. -/
inductive OrderStatus where
  | pending
  | completed
  | failed
  | cancelled
  | refunded
  deriving DecidableEq, Repr, Inhabited

/-- Where a payment stands. Only a pending payment moves. -/
inductive PaymentStatus where
  | pending
  | succeeded
  | failed
  | refunded
  deriving DecidableEq, Repr, Inhabited

/-- Where a reserved seat stands. -/
inductive SeatStatus where
  | available
  | locked
  | sold
  | unavailable
  deriving DecidableEq, Repr, Inhabited

/-- Where an issued ticket stands. -/
inductive TicketStatus where
  | valid
  | checkedIn
  | voided
  | resold
  deriving DecidableEq, Repr, Inhabited

namespace OrderStatus

/-- The stored name. -/
def name : OrderStatus → String
  | .pending => "pending"
  | .completed => "completed"
  | .failed => "failed"
  | .cancelled => "cancelled"
  | .refunded => "refunded"

/-- The status with a stored name. -/
def ofName? (s : String) : Option OrderStatus :=
  [OrderStatus.pending, .completed, .failed, .cancelled, .refunded].find? (·.name == s)

end OrderStatus

namespace PaymentStatus

/-- The stored name. -/
def name : PaymentStatus → String
  | .pending => "pending"
  | .succeeded => "succeeded"
  | .failed => "failed"
  | .refunded => "refunded"

/-- The status with a stored name. -/
def ofName? (s : String) : Option PaymentStatus :=
  [PaymentStatus.pending, .succeeded, .failed, .refunded].find? (·.name == s)

end PaymentStatus

namespace SeatStatus

/-- The stored name. -/
def name : SeatStatus → String
  | .available => "available"
  | .locked => "locked"
  | .sold => "sold"
  | .unavailable => "unavailable"

/-- The status with a stored name. -/
def ofName? (s : String) : Option SeatStatus :=
  [SeatStatus.available, .locked, .sold, .unavailable].find? (·.name == s)

end SeatStatus

namespace TicketStatus

/-- The stored name. -/
def name : TicketStatus → String
  | .valid => "valid"
  | .checkedIn => "checked_in"
  | .voided => "voided"
  | .resold => "resold"

/-- The status with a stored name. -/
def ofName? (s : String) : Option TicketStatus :=
  [TicketStatus.valid, .checkedIn, .voided, .resold].find? (·.name == s)

end TicketStatus

theorem OrderStatus.ofName?_name (s : OrderStatus) : OrderStatus.ofName? s.name = some s := by
  cases s <;> rfl

theorem PaymentStatus.ofName?_name (s : PaymentStatus) :
    PaymentStatus.ofName? s.name = some s := by
  cases s <;> rfl

theorem SeatStatus.ofName?_name (s : SeatStatus) : SeatStatus.ofName? s.name = some s := by
  cases s <;> rfl

end TicketCheckout
