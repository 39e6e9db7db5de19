import TicketCheckout.Checkout.Failure

/-!
# Carts

A cart is the list of lines a buyer asks for: an offer, a quantity, and for a reserved seat the
seat. Before any inventory is touched a cart must pass `validateCart`: it is not empty, has no
more lines than allowed, every quantity is at least one, a seat line buys exactly one ticket, no
seat of an offer is asked for twice, and the tickets in total stay within the limit. The first
rule broken, in this order and line by line, names the failure.
-/

namespace TicketCheckout

/-- One line of a checkout request. -/
structure CartLine where
  offerId : Int
  quantity : Int := 1
  seatId : Option Int := none
  deriving DecidableEq, Repr

/-- How large a cart may be. -/
structure CartLimits where
  maxItems : Int := 20
  maxTickets : Int := 10
  deriving DecidableEq, Repr

namespace CartLine

/-- Whether the line reserves a seat rather than general admission. -/
def isSeat (line : CartLine) : Bool := line.seatId.isSome

end CartLine

/-- The tickets a list of lines buys. -/
def ticketTotal (quantities : List Int) : Int := quantities.foldl (· + ·) 0

/-- The rules for single lines, in order; `seen` holds the seats of earlier lines. -/
def checkLines (seen : List (Int × Int)) : List CartLine → Except Failure Unit
  | [] => .ok ()
  | line :: rest =>
    if line.quantity < 1 then .error (.invalid "Item quantity must be at least 1")
    else match line.seatId with
      | none => checkLines seen rest
      | some seat =>
        if line.quantity != 1 then .error (.invalid "A seat item must have quantity 1")
        else if seen.contains (line.offerId, seat) then
          .error (.invalid s!"Seat {seat} is listed more than once")
        else checkLines ((line.offerId, seat) :: seen) rest

/-- Checks a cart against the limits; see the module comment. -/
def validateCart (limits : CartLimits) (lines : List CartLine) : Except Failure Unit := do
  if lines.isEmpty then throw (.invalid "Order must contain at least one item")
  if (lines.length : Int) > limits.maxItems then
    throw (.invalid s!"Order cannot contain more than {limits.maxItems} items")
  checkLines [] lines
  if ticketTotal (lines.map (·.quantity)) > limits.maxTickets then
    throw (.invalid s!"Maximum {limits.maxTickets} tickets per order")

theorem validateCart_nil (limits : CartLimits) :
    (validateCart limits []).isOk = false := rfl

end TicketCheckout
