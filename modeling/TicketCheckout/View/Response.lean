import TicketCheckout.Service.Manage
import TicketCheckout.Service.PlaceOrder
import TicketCheckout.View.Records

/-!
# Web responses

The bodies the web layer answers with. Instants end in `Z`; amounts are decimal texts; an order
or ticket is named by its label. An order response leaves out the update time and the computed
amounts; a payment response shows only status, amount and currency. A checkout response carries
the client secret, which must be a text.

Every amount must be finite (`finite_number`). A response is built part by part, each part
validated when it is built: an order's lines one by one (the first bad line fails alone), then
the order's own amounts together; a checkout's order before its client secret; an order
detail's order, then its payment, then its tickets one by one.
-/

namespace TicketCheckout.View

/-- The issues of an amount field: none when it is finite. -/
def finiteIssues (name : String) (d : Number.Decimal) : List FieldIssue :=
  if d.isFinite then [] else [⟨[.name name], "finite_number"⟩]

/-- A response part, or every issue of its fields. -/
def validated (issues : List FieldIssue) (part : Json) : Except Failure Json :=
  if issues.isEmpty then .ok part else .error (.invalidFields issues)

/-- An order line in a response. -/
def lineResponse (l : OrderLine) : Except Failure Json :=
  validated (finiteIssues "unit_price" l.unitPrice) <|
    .obj [("offer_id", .int l.offerId), ("event_id", .int l.eventId),
      ("ticket_tier_id", .int l.tierId), ("seat_id", int? l.seatId), ("quantity", .int l.quantity),
      ("unit_price", amount l.unitPrice)]

/-- An order in a response. -/
def orderResponse (o : Order) : Except Failure Json := do
  let items ← o.lines.mapM lineResponse
  validated (finiteIssues "subtotal" o.subtotal ++ finiteIssues "service_fee" o.serviceFee ++
      finiteIssues "total_amount" o.total) <|
    .obj [("id", .str o.ref.label), ("user_id", .int o.userId), ("status", .str o.status.name),
      ("subtotal", amount o.subtotal), ("service_fee", amount o.serviceFee),
      ("total_amount", amount o.total), ("currency", .str o.currency),
      ("items", .arr items), ("created_at", instant .zulu o.createdAt),
      ("expires_at", instant .zulu o.expiresAt), ("completed_at", instant? .zulu o.completedAt)]

/-- The response to a checkout; a client secret that is not a text does not validate. -/
def checkoutResponse (p : Placement) : Except Failure Json := do
  let order ← orderResponse p.order
  match p.clientSecret with
  | .str s => .ok (.obj [("order", order), ("client_secret", .str s)])
  | _ => .error (.invalidFields [⟨[.name "client_secret"], "string_type"⟩])

/-- A ticket in a response, at a position (from one) among its order's tickets. -/
def ticketResponse (t : Ticket) (position : Nat) : Except Failure Json :=
  validated (finiteIssues "price_paid" t.pricePaid) <|
    .obj [("id", .str (ticketLabel t position)), ("event_id", .int t.eventId),
      ("ticket_tier_id", .int t.tierId), ("seat_id", int? t.seatId),
      ("price_paid", amount t.pricePaid), ("redemption_code", .str t.code),
      ("status", .str t.status.name)]

/-- A payment in a response. -/
def paymentResponse (p : Payment) : Except Failure Json :=
  validated (finiteIssues "amount_charged" p.amountCharged) <|
    .obj [("status", .str p.status.name), ("amount_charged", amount p.amountCharged),
      ("currency", .str p.currency)]

/-- The response to looking at an order. -/
def detailResponse (d : OrderDetail) : Except Failure Json := do
  let order ← orderResponse d.order
  let payment ← match d.payment with
    | some p => paymentResponse p
    | none => pure .null
  let tickets ← (d.tickets.zip (List.range d.tickets.length)).mapM fun (t, i) =>
    ticketResponse t (i + 1)
  pure (.obj [("order", order), ("payment", payment), ("tickets", .arr tickets)])

/-- The acknowledgement of a callback. -/
def acknowledgement (handled : Bool) : Json :=
  .obj [("received", .bool true), ("handled", .bool handled)]

end TicketCheckout.View
