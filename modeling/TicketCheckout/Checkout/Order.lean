import TicketCheckout.Checkout.Failure
import TicketCheckout.Checkout.Status
import TicketCheckout.Clock
import TicketCheckout.Number.Decimal
import TicketCheckout.Text.Hex

/-!
# Orders

An order holds the lines a buyer reserved, their prices and the order's amounts. Pricing
(`Pricing.ofLines`) sums the line totals (unit price times quantity) and rounds the sum to
cents, ties to even; the service fee is the fee per ticket times the ticket count, rounded the
same way; the total is their sum. Decimal arithmetic keeps 28 significant digits, and an amount
that needs more digits at cents fails.

A pending order can be completed, cancelled or failed once (`Order.moveTo`); an order in any
other status refuses. Completing an order issues one ticket per unit bought, in line order.

Main statements: `moveTo_pending` (a pending order moves to the requested status) and
`moveTo_not_pending` (any other order refuses).
-/

namespace TicketCheckout

/-- Which order: the `n`-th order placed in a session and reported to its buyer, an order
known by name, or an order placed but never reported, by the number of orders known before
it. -/
inductive OrderRef where
  | placed (n : Nat)
  | named (name : String)
  | unreported (k : Nat)
  deriving DecidableEq, Repr, Inhabited

/-- The reference as messages and reports show it: `o1`, `o2`, ... for placed orders, the
name for named ones, and `?0`, `?1`, ... for unreported ones. -/
def OrderRef.label : OrderRef → String
  | .placed n => "o" ++ toString n
  | .named s => s
  | .unreported k => "?" ++ toString k

/-- One line of an order: what was reserved and at which unit price. -/
structure OrderLine where
  offerId : Int
  eventId : Int
  tierId : Int
  seatId : Option Int
  quantity : Int
  unitPrice : Number.Decimal
  deriving Inhabited

/-- The arithmetic of money: 28 significant digits. -/
def moneyContext : Number.Context := {}

/-- A decimal fault as a failure. -/
def Failure.ofFault (f : Number.Fault) : Failure :=
  match f with
  | .notANumber => .badValue ""
  | .infiniteValue => .outOfRange
  | f => .arithmetic f

/-- Lifts a decimal result into the failures of the service. -/
def liftDecimal {α : Type} (r : Except Number.Fault α) : Except Failure α :=
  r.mapError Failure.ofFault

namespace OrderLine

/-- The unit price times the quantity. -/
def total (line : OrderLine) : Except Failure Number.Decimal :=
  liftDecimal (Number.Decimal.mul moneyContext line.unitPrice (.ofInt line.quantity))

/-- Whether the line is a reserved seat. -/
def isSeat (line : OrderLine) : Bool := line.seatId.isSome

end OrderLine

/-- The amounts of an order. -/
structure Pricing where
  subtotal : Number.Decimal
  serviceFee : Number.Decimal
  total : Number.Decimal
  ticketCount : Int

/-- The exponent of cents. -/
def centsExponent : Int := -2

/-- The tickets that lines buy. -/
def ticketCount (lines : List OrderLine) : Int := lines.foldl (fun n l => n + l.quantity) 0

/-- The sum of the line totals, starting from a zero with exponent zero. -/
def lineSum : List OrderLine → Number.Decimal → Except Failure Number.Decimal
  | [], acc => .ok acc
  | l :: rest, acc => do
    let t ← l.total
    let acc ← liftDecimal (Number.Decimal.add moneyContext acc t)
    lineSum rest acc

/-- Prices lines with a fee per ticket; see the module comment. -/
def Pricing.ofLines (feePerTicket : Number.Decimal) (lines : List OrderLine) :
    Except Failure Pricing := do
  if lines.isEmpty then throw (.invalid "Order must contain at least one item")
  let sum ← lineSum lines Number.Decimal.zero
  let subtotal ← liftDecimal (Number.Decimal.quantize moneyContext sum centsExponent)
  let count := TicketCheckout.ticketCount lines
  let fee ← liftDecimal (Number.Decimal.mul moneyContext feePerTicket (.ofInt count))
  let fee ← liftDecimal (Number.Decimal.quantize moneyContext fee centsExponent)
  let total ← liftDecimal (Number.Decimal.add moneyContext subtotal fee)
  pure ⟨subtotal, fee, total, count⟩

/-- The total in minor units: a hundred times the amount, rounded to a whole number. -/
def minorUnits (amount : Number.Decimal) : Except Failure Int := do
  let scaled ← liftDecimal (Number.Decimal.mul moneyContext amount (.ofInt 100))
  let whole ← liftDecimal (Number.Decimal.toIntegral scaled)
  liftDecimal (Number.Decimal.toInt whole)

/-- An order: its reference, its buyer, its amounts, its lines and its life cycle. -/
structure Order where
  ref : OrderRef
  userId : Int
  subtotal : Number.Decimal
  serviceFee : Number.Decimal
  total : Number.Decimal
  currency : String
  expiresAt : Instant
  status : OrderStatus
  lines : List OrderLine
  createdAt : Instant
  updatedAt : Instant
  completedAt : Option Instant
  deriving Inhabited

/-- A ticket: one admission bought by an order. -/
structure Ticket where
  order : OrderRef
  userId : Int
  eventId : Int
  tierId : Int
  seatId : Option Int
  pricePaid : Number.Decimal
  code : String
  status : TicketStatus
  createdAt : Instant

/-- What a move of a pending order does. -/
inductive OrderAction where
  | complete
  | cancel
  | fail
  deriving DecidableEq, Repr

namespace OrderAction

/-- The verb of the action in messages. -/
def verb : OrderAction → String
  | .complete => "complete"
  | .cancel => "cancel"
  | .fail => "fail"

/-- The status the action leads to. -/
def target : OrderAction → OrderStatus
  | .complete => .completed
  | .cancel => .cancelled
  | .fail => .failed

end OrderAction

/-- The redemption code of the `k`-th ticket issued in a session. -/
def redemptionCode (k : Nat) : String := "rc" ++ Text.hexPadded k 20

namespace Order

/-- A new pending order over priced lines, created at `now`. -/
def place (ref : OrderRef) (userId : Int) (lines : List OrderLine) (feePerTicket : Number.Decimal)
    (currency : String) (expiresAt now : Instant) : Except Failure Order := do
  let p ← Pricing.ofLines feePerTicket lines
  pure {
    ref, userId, subtotal := p.subtotal, serviceFee := p.serviceFee, total := p.total,
    currency, expiresAt, status := .pending, lines, createdAt := now, updatedAt := now,
    completedAt := none }

/-- The tickets the order buys. -/
def ticketCount (o : Order) : Int := TicketCheckout.ticketCount o.lines

/-- Whether the order is pending. -/
def isPending (o : Order) : Bool := o.status == .pending

/-- Whether the reservation window closed before `now`. -/
def isExpired (o : Order) (now : Instant) : Bool := decide (o.expiresAt < now)

/-- The order after `action` at `now`; only a pending order moves. -/
def moveTo (o : Order) (action : OrderAction) (now : Instant) : Except Failure Order :=
  if o.isPending then
    .ok { o with
      status := action.target, updatedAt := now,
      completedAt := if action == .complete then some now else o.completedAt }
  else .error (.invalid s!"Cannot {action.verb} order in status {o.status.name}")

/-- One ticket per unit bought, in line order, issued at `now`, with codes counted from
`firstCode`. -/
def issueTickets (o : Order) (now : Instant) (firstCode : Nat) : List Ticket :=
  let units := o.lines.flatMap fun l => List.replicate l.quantity.toNat l
  (units.zip (List.range units.length)).map fun (l, i) =>
    { order := o.ref, userId := o.userId, eventId := l.eventId, tierId := l.tierId,
      seatId := l.seatId, pricePaid := l.unitPrice, code := redemptionCode (firstCode + i),
      status := .valid, createdAt := now }

theorem moveTo_pending (o : Order) (action : OrderAction) (now : Instant)
    (h : o.status = .pending) :
    ∃ o', o.moveTo action now = .ok o' ∧ o'.status = action.target ∧ o'.updatedAt = now := by
  simp [moveTo, isPending, h]

theorem moveTo_not_pending (o : Order) (action : OrderAction) (now : Instant)
    (h : o.status ≠ .pending) :
    o.moveTo action now =
      .error (.invalid s!"Cannot {action.verb} order in status {o.status.name}") := by
  simp [moveTo, isPending, h]

end Order

end TicketCheckout
