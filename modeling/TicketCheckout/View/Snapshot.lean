import TicketCheckout.Store.Tables
import TicketCheckout.View.Records

/-!
# Store snapshots

A compact picture of the store after a call: offers as id, units for sale and units sold, by
id; seats as event, seat, status, lock expiry and holder, by event and seat; orders as label,
status, payment status and ticket count, shortest label first and then alphabetically. Statuses
are shown by their stored names, whatever they are.
-/

namespace TicketCheckout.View

open Store

/-- Orders labels: shorter first, then by text. -/
def labelBefore (a b : String) : Bool :=
  a.length < b.length || (a.length == b.length && decide (a ≤ b))

/-- The snapshot of a store; see the module comment. -/
def snapshot (s : Store.Tables) : Json :=
  let offers := (s.offers.mergeSort fun a b => decide (a.id ≤ b.id)).map fun o =>
    Json.arr [.int o.id, .int o.forSale, .int o.sold]
  let seatBefore (a b : Store.SeatRow) : Bool :=
    decide (a.eventId < b.eventId) || (a.eventId == b.eventId && decide (a.seatId ≤ b.seatId))
  let seats := (s.seats.mergeSort seatBefore).map
    fun r => Json.arr [.int r.eventId, .int r.seatId, .str r.status,
      instant? .offset r.lockExpiresAt,
      match r.holder with
      | some h => .str h.label
      | none => .null]
  let orders := (s.orders.mergeSort fun a b => labelBefore a.ref.label b.ref.label).map fun o =>
    Json.arr [.str o.ref.label, .str o.status,
      match s.paymentOf? o.ref with
      | some p => .str p.status
      | none => .null,
      .int (s.ticketsOf o.ref).length]
  .obj [("offers", .arr offers), ("seats", .arr seats), ("orders", .arr orders)]

end TicketCheckout.View
