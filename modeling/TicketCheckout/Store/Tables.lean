import TicketCheckout.Checkout.Offer
import TicketCheckout.Checkout.Payment
import TicketCheckout.Checkout.Seat
import TicketCheckout.Store.Amount

/-!
# Store tables

The rows the checkout store keeps, table by table in insertion order, and the constraints its
writes must keep: unique keys (offer id, event and seat, order reference, payment of an order,
payment reference, ticket code), units sold between zero and the units for sale, and no missing
amount. Every integer a statement carries, in a row or as a parameter, must fit in 64 bits
(`bindIntegers`); one that does not fails the statement with an overflow before anything is
checked or written. A row keeps statuses by name and amounts as stored numbers (`Store.Amount`); reading a
row as an entity converts both, and a status name that no status has is refused then.
-/

namespace TicketCheckout.Store

open Number

/-- A stored offer. -/
structure OfferRow where
  id : Int
  eventId : Int
  tierId : Int
  name : String
  price : Binary64
  forSale : Int
  sold : Int

/-- A stored seat. -/
structure SeatRow where
  eventId : Int
  seatId : Int
  tierId : Int
  status : String
  lockExpiresAt : Option Instant
  holder : Option OrderRef

/-- A stored order line. -/
structure LineRow where
  offerId : Int
  eventId : Int
  tierId : Int
  seatId : Option Int
  quantity : Int
  unitPrice : Binary64

/-- A stored order with its lines in position order. -/
structure OrderRow where
  ref : OrderRef
  userId : Int
  status : String
  subtotal : Binary64
  serviceFee : Binary64
  total : Binary64
  currency : String
  createdAt : Instant
  updatedAt : Instant
  expiresAt : Instant
  completedAt : Option Instant
  lines : List LineRow

/-- A stored payment. -/
structure PaymentRow where
  order : OrderRef
  status : String
  amountCharged : Binary64
  currency : String
  reference : String
  createdAt : Instant

/-- A stored ticket. -/
structure TicketRow where
  order : OrderRef
  userId : Int
  eventId : Int
  tierId : Int
  seatId : Option Int
  pricePaid : Binary64
  code : String
  status : String
  createdAt : Instant

/-- The checkout store: every table in insertion order. -/
structure Tables where
  offers : List OfferRow := []
  seats : List SeatRow := []
  orders : List OrderRow := []
  payments : List PaymentRow := []
  tickets : List TicketRow := []

/-- Fails with a constraint violation unless `ok` holds. -/
def require (ok : Bool) : Except Failure Unit :=
  if ok then .ok () else .error .constraintViolated

/-- Whether an integer fits a stored integer: 64 bits, two's complement. -/
def fitsInteger (n : Int) : Bool := -Int.pow 2 63 ≤ n && n < Int.pow 2 63

/-- Fails with an overflow unless every integer a statement carries fits a stored integer. -/
def bindIntegers (params : List Int) : Except Failure Unit :=
  if params.all fitsInteger then .ok () else .error .outOfRange

/-- Reads a stored status name. -/
def readStatus {α : Type} (ofName? : String → Option α) (name : String) : Except Failure α :=
  match ofName? name with
  | some s => .ok s
  | none => .error (.badValue "")

/-! ## Rows as entities -/

/-- A stored offer as an offer. -/
def OfferRow.toOffer (r : OfferRow) : Offer :=
  ⟨r.id, r.eventId, r.tierId, r.name, readAmount r.price, r.forSale, r.sold⟩

/-- A stored seat as a seat. -/
def SeatRow.toSeat (r : SeatRow) : Except Failure Seat := do
  let status ← readStatus SeatStatus.ofName? r.status
  pure ⟨r.eventId, r.seatId, r.tierId, status, r.lockExpiresAt, r.holder⟩

/-- A stored line as an order line. -/
def LineRow.toLine (r : LineRow) : OrderLine :=
  ⟨r.offerId, r.eventId, r.tierId, r.seatId, r.quantity, readAmount r.unitPrice⟩

/-- A stored order as an order. -/
def OrderRow.toOrder (r : OrderRow) : Except Failure Order := do
  let status ← readStatus OrderStatus.ofName? r.status
  pure {
    ref := r.ref, userId := r.userId, subtotal := readAmount r.subtotal,
    serviceFee := readAmount r.serviceFee, total := readAmount r.total, currency := r.currency,
    expiresAt := r.expiresAt, status, lines := r.lines.map LineRow.toLine,
    createdAt := r.createdAt, updatedAt := r.updatedAt, completedAt := r.completedAt }

/-- A stored payment as a payment. -/
def PaymentRow.toPayment (r : PaymentRow) : Except Failure Payment := do
  let status ← readStatus PaymentStatus.ofName? r.status
  pure ⟨r.order, status, readAmount r.amountCharged, r.currency, r.reference, r.createdAt⟩

/-- A stored ticket as a ticket. -/
def TicketRow.toTicket (r : TicketRow) : Except Failure Ticket := do
  let status ← readStatus TicketStatus.ofName? r.status
  pure ⟨r.order, r.userId, r.eventId, r.tierId, r.seatId, readAmount r.pricePaid, r.code, status,
    r.createdAt⟩

/-! ## Inserts -/

/-- The integers of an offer row. -/
def OfferRow.integers (r : OfferRow) : List Int := [r.id, r.eventId, r.tierId, r.forSale, r.sold]

/-- The integers of a seat row. -/
def SeatRow.integers (r : SeatRow) : List Int := [r.eventId, r.seatId, r.tierId]

/-- The integers of a line row. -/
def LineRow.integers (r : LineRow) : List Int :=
  [r.offerId, r.eventId, r.tierId, r.quantity] ++ r.seatId.toList

/-- The integers of a ticket row. -/
def TicketRow.integers (r : TicketRow) : List Int :=
  [r.userId, r.eventId, r.tierId] ++ r.seatId.toList

namespace Tables

/-- Adds an offer: its id is new and its units sold lie between zero and the units for sale. -/
def insertOffer (s : Tables) (r : OfferRow) : Except Failure Tables := do
  bindIntegers r.integers
  require (0 ≤ r.sold && r.sold ≤ r.forSale)
  require (s.offers.all (·.id != r.id))
  pure { s with offers := s.offers ++ [r] }

/-- Adds a seat whose event and seat number are new. -/
def insertSeat (s : Tables) (r : SeatRow) : Except Failure Tables := do
  bindIntegers r.integers
  require (s.seats.all fun q => !(q.eventId == r.eventId && q.seatId == r.seatId))
  pure { s with seats := s.seats ++ [r] }

/-- Adds an order whose reference is new; the order is written before its lines. -/
def insertOrder (s : Tables) (r : OrderRow) : Except Failure Tables := do
  bindIntegers [r.userId]
  require (s.orders.all (·.ref != r.ref))
  bindIntegers (r.lines.flatMap LineRow.integers)
  pure { s with orders := s.orders ++ [r] }

/-- Adds a payment for an order without one, under a new reference. -/
def insertPayment (s : Tables) (r : PaymentRow) : Except Failure Tables := do
  require (s.payments.all fun p => p.order != r.order && p.reference != r.reference)
  pure { s with payments := s.payments ++ [r] }

/-- Adds tickets with new codes. -/
def insertTickets (s : Tables) (rs : List TicketRow) : Except Failure Tables := do
  bindIntegers (rs.flatMap TicketRow.integers)
  let codes := s.tickets.map (·.code) ++ rs.map (·.code)
  require (codes.eraseDups.length == codes.length)
  pure { s with tickets := s.tickets ++ rs }

/-! ## Look-ups -/

/-- The offer with an id. -/
def offer? (s : Tables) (id : Int) : Option OfferRow := s.offers.find? (·.id == id)

/-- Looks up the offer with an id, which must fit a stored integer. -/
def findOffer (s : Tables) (id : Int) : Except Failure (Option OfferRow) := do
  bindIntegers [id]
  pure (s.offer? id)

/-- The seat of an event. -/
def seat? (s : Tables) (eventId seatId : Int) : Option SeatRow :=
  s.seats.find? fun r => r.eventId == eventId && r.seatId == seatId

/-- The order with a reference. -/
def order? (s : Tables) (ref : OrderRef) : Option OrderRow := s.orders.find? (·.ref == ref)

/-- The payment of an order. -/
def paymentOf? (s : Tables) (ref : OrderRef) : Option PaymentRow :=
  s.payments.find? (·.order == ref)

/-- The payment with a reference. -/
def paymentByReference? (s : Tables) (reference : String) : Option PaymentRow :=
  s.payments.find? (·.reference == reference)

/-- The tickets of an order, in issue order. -/
def ticketsOf (s : Tables) (ref : OrderRef) : List TicketRow := s.tickets.filter (·.order == ref)

end Tables

/-! ## Entities as rows -/

/-- An order line as it is stored. -/
def lineRow (l : OrderLine) : Except Failure LineRow := do
  let price ← storeAmount l.unitPrice
  pure ⟨l.offerId, l.eventId, l.tierId, l.seatId, l.quantity, price⟩

/-- An order as it is stored. -/
def orderRow (o : Order) : Except Failure OrderRow := do
  let subtotal ← storeAmount o.subtotal
  let fee ← storeAmount o.serviceFee
  let total ← storeAmount o.total
  let lines ← o.lines.mapM lineRow
  pure {
    ref := o.ref, userId := o.userId, status := o.status.name, subtotal, serviceFee := fee,
    total, currency := o.currency, createdAt := o.createdAt, updatedAt := o.updatedAt,
    expiresAt := o.expiresAt, completedAt := o.completedAt, lines }

/-- A ticket as it is stored. -/
def ticketRow (t : Ticket) : Except Failure TicketRow := do
  let price ← storeAmount t.pricePaid
  pure ⟨t.order, t.userId, t.eventId, t.tierId, t.seatId, price, t.code, t.status.name,
    t.createdAt⟩

theorem insertOffer_offers (s s' : Tables) (r : OfferRow) (h : s.insertOffer r = .ok s') :
    s'.offers = s.offers ++ [r] := by
  simp only [Tables.insertOffer, bindIntegers, require] at h
  split at h <;> split at h <;> split at h <;> simp_all [bind, Except.bind, pure, Except.pure]
  · cases h
    rfl

end TicketCheckout.Store
