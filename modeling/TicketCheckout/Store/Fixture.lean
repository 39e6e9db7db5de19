import TicketCheckout.Store.Tables

/-!
# Store fixtures

A store filled with given rows before the service runs: offers, seats, orders with their lines
and payments, and payments whose order may not exist. Amounts are decimals and are stored as
every amount is (`Store.Amount`); statuses are stored by name, whether or not a status has that
name. An order is created and last updated at the same instant, and its payment, which is in the
order's currency, at that instant too; a payment given on its own is created at the instant the
fixture is loaded. Rows are inserted in the order given, offers first, and loading fails at the
first row that breaks a constraint of the store.
-/

namespace TicketCheckout.Store

open Number

/-- An offer to store. -/
structure OfferFixture where
  id : Int
  eventId : Int
  tierId : Int
  name : String
  price : Decimal
  forSale : Int
  sold : Int

/-- A line of an order to store. -/
structure LineFixture where
  offerId : Int
  eventId : Int
  tierId : Int
  seatId : Option Int
  quantity : Int
  unitPrice : Decimal

/-- The payment of an order to store; without an amount it charges the order's total. -/
structure OrderPaymentFixture where
  status : String
  reference : String
  amountCharged : Option Decimal

/-- An order to store. -/
structure OrderFixture where
  ref : OrderRef
  userId : Int
  status : String
  subtotal : Decimal
  serviceFee : Decimal
  total : Decimal
  currency : String
  expiresAt : Instant
  createdAt : Instant
  completedAt : Option Instant
  lines : List LineFixture
  payment : Option OrderPaymentFixture

/-- A payment to store on its own. -/
structure PaymentFixture where
  order : OrderRef
  reference : String
  status : String
  amountCharged : Decimal
  currency : String

/-- The rows a store starts with. -/
structure Fixture where
  offers : List OfferFixture := []
  seats : List SeatRow := []
  orders : List OrderFixture := []
  payments : List PaymentFixture := []

/-- An offer row. -/
def OfferFixture.row (o : OfferFixture) : Except Failure OfferRow := do
  pure ⟨o.id, o.eventId, o.tierId, o.name, ← storeAmount o.price, o.forSale, o.sold⟩

/-- A line row. -/
def LineFixture.row (l : LineFixture) : Except Failure LineRow := do
  pure ⟨l.offerId, l.eventId, l.tierId, l.seatId, l.quantity, ← storeAmount l.unitPrice⟩

/-- Adds an order and its payment. -/
def Tables.insertOrderFixture (s : Tables) (o : OrderFixture) : Except Failure Tables := do
  let lines ← o.lines.mapM LineFixture.row
  let s ← s.insertOrder {
    ref := o.ref, userId := o.userId, status := o.status, subtotal := ← storeAmount o.subtotal,
    serviceFee := ← storeAmount o.serviceFee, total := ← storeAmount o.total,
    currency := o.currency, createdAt := o.createdAt, updatedAt := o.createdAt,
    expiresAt := o.expiresAt, completedAt := o.completedAt, lines }
  match o.payment with
  | none => pure s
  | some p =>
    let charged ← storeAmount (p.amountCharged.getD o.total)
    s.insertPayment ⟨o.ref, p.status, charged, o.currency, p.reference, o.createdAt⟩

/-- Loads a fixture into an empty store at instant `now`; see the module comment. -/
def Fixture.load (f : Fixture) (now : Instant) : Except Failure Tables := do
  let s ← f.offers.foldlM (fun s o => do s.insertOffer (← o.row)) {}
  let s ← f.seats.foldlM Tables.insertSeat s
  let s ← f.orders.foldlM Tables.insertOrderFixture s
  f.payments.foldlM (fun s p => do
    s.insertPayment ⟨p.order, p.status, ← storeAmount p.amountCharged, p.currency, p.reference,
      now⟩) s

end TicketCheckout.Store
