import TicketCheckout.Json.Basic
import TicketCheckout.Number.Decimal

/-!
# Failures

Why a call to the checkout service fails. The service's own failures (`Failure.isService`)
carry the message shown to clients and an HTTP status; three of them are conflicts over
contended inventory (`Failure.isConflict`). The others come from the data below the service:
a broken store constraint, a value that names no status, decimal arithmetic without a result,
a malformed structure, or request fields that do not validate.
-/

namespace TicketCheckout

/-- One step of the path to a field of a request: a member name or an item index. -/
inductive FieldStep where
  | name (key : String)
  | index (i : Nat)
  deriving DecidableEq, Repr

/-- A request field that did not validate: where it is and which rule it broke. -/
structure FieldIssue where
  path : List FieldStep
  rule : String
  deriving DecidableEq, Repr

/-- Why a call failed; see the module comment. -/
inductive Failure where
  /-- A domain rule refused the request. -/
  | rejected (message : String) (status : Nat)
  /-- The caller may not touch the order. -/
  | forbidden (message : String)
  /-- Something the request names does not exist. -/
  | notFound (message : String)
  /-- The request lost a race over the state of an order or payment. -/
  | conflict (message : String)
  /-- An offer has fewer unsold units than requested. -/
  | soldOut (message : String)
  /-- A seat is not in the state the request needs. -/
  | seatTaken (message : String)
  /-- The caller's credentials are missing or not accepted. -/
  | unauthenticated (message : String)
  /-- The payment processor could not be reached or refused. -/
  | gatewayFailed (message : String)
  /-- A gateway callback is not signed as it must be. -/
  | badSignature (message : String)
  /-- A service failure of no more specific kind. -/
  | serviceError (message : String) (status : Nat)
  /-- A write would break a constraint of the store. -/
  | constraintViolated
  /-- A value outside its type, such as a stored name that no status has. -/
  | badValue (detail : String)
  /-- Decimal arithmetic without a result. -/
  | arithmetic (fault : Number.Fault)
  /-- A number or instant too large for its representation. -/
  | outOfRange
  /-- A structure lacks an operation its use needs. -/
  | missingAttribute
  /-- An operation met a value of the wrong type. -/
  | wrongType
  /-- Settings or request fields that do not validate. -/
  | invalidFields (issues : List FieldIssue)
  /-- A request rejected by the web layer's validation, with its error records. -/
  | invalidRequest (errors : List Json)
  /-- An exception of a library that the service does not handle, by its class name. -/
  | unexpected (detail : String)
  /-- Text that a header cannot carry. -/
  | badEncoding
  /-- A base address the HTTP client refuses. -/
  | badAddress
  /-- A secret that cannot sign tokens, such as key material of another scheme. -/
  | unsuitableKey
  deriving Inhabited

namespace Failure

/-- A domain rule refusing with status 400. -/
def invalid (message : String) : Failure := .rejected message 400

/-- Whether the failure is one of the service's own, with a message and a status. -/
def isService : Failure → Bool
  | .rejected .. | .forbidden _ | .notFound _ | .conflict _ | .soldOut _ | .seatTaken _
  | .unauthenticated _ | .gatewayFailed _ | .badSignature _ | .serviceError .. => true
  | _ => false

/-- Whether the failure is a conflict over contended state. -/
def isConflict : Failure → Bool
  | .conflict _ | .soldOut _ | .seatTaken _ => true
  | _ => false

/-- The message of a service failure, or the detail text of another one. -/
def message : Failure → String
  | .rejected m _ | .forbidden m | .notFound m | .conflict m | .soldOut m | .seatTaken m
  | .unauthenticated m | .gatewayFailed m | .badSignature m | .serviceError m _ => m
  | .badValue d | .unexpected d => d
  | _ => ""

/-- The HTTP status of a service failure. -/
def status : Failure → Nat
  | .rejected _ s | .serviceError _ s => s
  | .forbidden _ => 403
  | .notFound _ => 404
  | .conflict _ | .soldOut _ | .seatTaken _ => 409
  | .unauthenticated _ => 401
  | .gatewayFailed _ => 502
  | .badSignature _ => 400
  | _ => 500

end Failure

end TicketCheckout
