import TicketCheckout.Checkout.Failure
import TicketCheckout.Number.Binary64

/-!
# Stored amounts

The store keeps a money amount as the nearest binary64 number and gives it back with exactly
two decimals: the stored number rounded to cents, ties to even. So a price with at most two
decimals and at most fifteen digits comes back as it went in, while `0.333` comes back as
`0.33` and `99999999999.999` as `100000000000.00`. A negative amount that rounds to zero comes
back as `-0.00`, a stored zero of either sign as `0.00`. A quiet not-a-number amount is stored
as a missing value, which the store refuses; a signaling one cannot be converted at all.
-/

namespace TicketCheckout.Store

open Number

/-- The number the store keeps for an amount. -/
def storeAmount (d : Decimal) : Except Failure Binary64 :=
  match d with
  | .finite neg c e => .ok (Binary64.ofDecimal neg c e)
  | .infinite neg => .ok (Binary64.infinity neg)
  | .nan _ false _ => .error .constraintViolated
  | .nan _ true _ => .error (.badValue "")

/-- The amount the store gives back for a stored number. -/
def readAmount (x : Binary64) : Decimal :=
  if x.isInfinite then .infinite x.negative
  else .finite (x.negative && !x.isZero) (x.scaledRound 2) (-2)

example : readAmount (Binary64.ofDecimal false 333 (-3)) = .finite false 33 (-2) := by
  decide +kernel

end TicketCheckout.Store
