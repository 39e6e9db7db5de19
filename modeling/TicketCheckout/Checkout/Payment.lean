import TicketCheckout.Checkout.Order

/-!
# Payments

The payment of an order: the amount charged, its currency and the reference of the payment
intent at the processor. A payment starts pending and is settled once, as succeeded or failed.
-/

namespace TicketCheckout

/-- The payment of an order. -/
structure Payment where
  order : OrderRef
  status : PaymentStatus
  amountCharged : Number.Decimal
  currency : String
  reference : String
  createdAt : Instant

end TicketCheckout
