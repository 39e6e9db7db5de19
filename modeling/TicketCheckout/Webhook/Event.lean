import TicketCheckout.Service.Settle
import TicketCheckout.Webhook.Signature

/-!
# Callback events

A verified callback is an event object. Its `type` says what happened to a payment intent, and
`data.object.id` names the intent. A succeeded payment runs the settlement of a success, a
failed one the settlement of a failure; any other type is acknowledged and ignored. The
acknowledgement says whether the event changed anything.

Finding the intent id: a missing or empty `data` counts as an empty object, and so does a
missing or empty `object`; `data` of any other kind has no members to look up. The id must be a
nonempty text.
-/

namespace TicketCheckout.Webhook

/-- The type of a succeeded payment. -/
def succeededType : String := "payment_intent.succeeded"

/-- The type of a failed payment. -/
def failedType : String := "payment_intent.payment_failed"

/-- The payment intent an event is about; see the module comment. -/
def intentId (event : List (String × Json)) : Except Failure String := do
  let missing : Failure := .invalid "Webhook event carries no payment intent id"
  let data := (event.lookup "data").getD .null
  let members ← match data with
    | .obj ms => pure ms
    | d => if d.truthy then throw .missingAttribute else pure []
  let object := (members.lookup "object").getD .null
  let id := match object with
    | .obj ms => (ms.lookup "id").getD .null
    | _ => .null
  match id with
  | .str s => if s.isEmpty then throw missing else pure s
  | _ => throw missing

/-- Handles a verified event; tells whether it changed anything. -/
def handle (event : List (String × Json)) : Service Bool := do
  match event.lookup "type" with
  | some (.str t) =>
    if t == succeededType then
      let intent ← Service.lift (intentId event)
      return (← Service.finalizePayment intent).isSome
    else if t == failedType then
      let intent ← Service.lift (intentId event)
      return (← Service.failPayment intent).isSome
    else return false
  | _ => return false

/-- Receives a callback: verifies it with the secret and tolerance at the current time, then
handles the event. -/
def receive (secret : List UInt8) (tolerance : Seconds) (body : List UInt8)
    (header : Option String) : Service Bool := do
  let now ← Service.epochSeconds
  let event ← Service.lift (verify readBody secret tolerance body header (.real (.ofInt now)))
  handle event

end TicketCheckout.Webhook
