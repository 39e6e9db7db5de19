import TicketCheckout.Checkout.Offer
import TicketCheckout.Checkout.Payment
import TicketCheckout.Checkout.Seat
import TicketCheckout.Number.DecimalText

/-!
# Records as JSON

The JSON records the service reports: orders with their lines and amounts, payments, tickets,
seats and offers. Amounts are decimal texts (`20.00`, `1E+2`), instants ISO texts with the
`+00:00` offset, orders named by their reference label. A ticket is named by its order's label,
`.t` and its position among the order's tickets. An order's amount in minor units and its line
totals are computed, so reporting an order can fail where that arithmetic fails.
-/

namespace TicketCheckout.View

open Number

/-- An amount as decimal text. -/
def amount (d : Decimal) : Json := .str d.toText

/-- An instant in ISO text with the given offset style. -/
def instant (style : InstantStyle) (t : Instant) : Json := .str (t.isoText style)

/-- An optional instant. -/
def instant? (style : InstantStyle) (t : Option Instant) : Json :=
  match t with
  | some t => instant style t
  | none => .null

/-- An optional integer. -/
def int? (n : Option Int) : Json :=
  match n with
  | some n => .int n
  | none => .null

/-- A line of an order with its total. -/
def orderLine (l : OrderLine) : Except Failure Json := do
  let total ← l.total
  pure (.obj [("offer_id", .int l.offerId), ("event_id", .int l.eventId),
    ("ticket_tier_id", .int l.tierId), ("seat_id", int? l.seatId), ("quantity", .int l.quantity),
    ("unit_price", amount l.unitPrice), ("line_total", amount total)])

/-- An order with its lines and amounts. -/
def order (o : Order) : Except Failure Json := do
  let lines ← o.lines.mapM orderLine
  let minor ← minorUnits o.total
  pure (.obj [("ref", .str o.ref.label), ("user_id", .int o.userId), ("status", .str o.status.name),
    ("subtotal", amount o.subtotal), ("service_fee", amount o.serviceFee),
    ("total_amount", amount o.total), ("currency", .str o.currency),
    ("ticket_count", .int o.ticketCount), ("amount_minor", .int minor),
    ("expires_at", instant .offset o.expiresAt), ("created_at", instant .offset o.createdAt),
    ("updated_at", instant .offset o.updatedAt),
    ("completed_at", instant? .offset o.completedAt), ("items", .arr lines)])

/-- The price of an order: its amounts, its ticket count, when its window closes and the totals
of its lines. -/
def quote (o : Order) : Except Failure Json := do
  let minor ← minorUnits o.total
  let totals ← o.lines.mapM OrderLine.total
  pure (.obj [("subtotal", amount o.subtotal), ("service_fee", amount o.serviceFee),
    ("total_amount", amount o.total), ("ticket_count", .int o.ticketCount),
    ("amount_minor", .int minor), ("expires_at", instant .offset o.expiresAt),
    ("line_totals", .arr (totals.map amount))])

/-- The status of an order after a move, with the instants the move sets. -/
def moved (o : Order) : Json :=
  .obj [("status", .str o.status.name), ("updated_at", instant .offset o.updatedAt),
    ("completed_at", instant? .offset o.completedAt)]

/-- A payment. -/
def payment (p : Payment) : Json :=
  .obj [("order", .str p.order.label), ("status", .str p.status.name),
    ("amount_charged", amount p.amountCharged), ("currency", .str p.currency),
    ("external_reference", .str p.reference), ("created_at", instant .offset p.createdAt)]

/-- The label of the ticket at a position (from one) among its order's tickets. -/
def ticketLabel (t : Ticket) (position : Nat) : String :=
  t.order.label ++ ".t" ++ toString position

/-- A ticket at a position (from one) among its order's tickets. -/
def ticket (t : Ticket) (position : Nat) : Json :=
  .obj [("ref", .str (ticketLabel t position)), ("order", .str t.order.label),
    ("user_id", .int t.userId), ("event_id", .int t.eventId), ("ticket_tier_id", .int t.tierId),
    ("seat_id", int? t.seatId), ("price_paid", amount t.pricePaid),
    ("status", .str t.status.name), ("redemption_code", .str t.code),
    ("created_at", instant .offset t.createdAt)]

/-- An order's tickets, in order. -/
def tickets (ts : List Ticket) : Json :=
  .arr ((ts.zip (List.range ts.length)).map fun (t, i) => ticket t (i + 1))

/-- A seat, and whether it is locked at `now`. -/
def seat (s : Seat) (now : Instant) : Json :=
  .obj [("event_id", .int s.eventId), ("seat_id", .int s.seatId), ("ticket_tier_id", .int s.tierId),
    ("status", .str s.status.name), ("lock_expires_at", instant? .offset s.lockExpiresAt),
    ("order", match s.holder with
      | some h => .str h.label
      | none => .null),
    ("is_locked_now", .bool (s.isLockedAt now))]

/-- An offer with what is still available. -/
def offer (o : Offer) : Json :=
  .obj [("id", .int o.id), ("event_id", .int o.eventId), ("ticket_tier_id", .int o.tierId),
    ("name", .str o.name), ("price", amount o.price), ("quantity_for_sale", .int o.forSale),
    ("quantity_sold", .int o.sold), ("quantity_available", .int o.available)]

end TicketCheckout.View
