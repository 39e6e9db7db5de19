import TicketCheckout.Checkout.Failure
import TicketCheckout.Json.Display
import TicketCheckout.Text.Blank

/-!
# Error responses

How the web layer answers a request that raised an error. Each kind of error has a handler:
the service's own errors answer with their status and `{"detail": message}`; a bad value answers
400 with the value's text as detail; a rejected request answers 400 with its error records, each
cut down to its `loc`, `msg` and `type` members; anything else answers 500 with the detail
`Internal server error`, after logging the error's text. A handler may also be applied to an
error of another kind: the service handler answers 500 with the error's text, the request handler
answers with no records. An error whose text cannot be written (`Json.display`) fails the
handlers that write it.

The text of a rejected request counts its records and lists the display text of each on a line
of its own, indented by two spaces, with trailing blanks removed from the whole:
`2 validation errors:\n  a\n  b`.

The service's errors are named by class. `CustomBaseError` and `DomainError` take a status with
their message (500 and 400 when none is given); the other classes have a fixed status, and
giving them one is a type error. The built-in errors take no status, and one given to them is
not used.

A body is written as strict JSON, so a body holding a number that is not finite or an integer
too long to write cannot be sent: the response fails with a bad value (`Json.writeFault?`). The
status is not part of the body, but it must be comparable with a number (a number or a truth
value), or the response fails with a type error, after the body is written.
-/

namespace TicketCheckout.Web

/-- An error as the web layer meets it. -/
inductive RaisedError where
  /-- One of the service's own errors. -/
  | service (message : Json) (status : Json)
  /-- A value of the right type but the wrong content, with its message. -/
  | badValue (message : Json)
  /-- A request that did not validate, with its error records. -/
  | invalidRequest (errors : List Json)
  /-- Any other error, with its message. -/
  | other (message : Json)

/-- The handlers of the web layer. -/
inductive Handler where
  | service
  | badValue
  | invalidRequest
  | fallback
  deriving DecidableEq, Repr

namespace Handler

/-- The handler with a name. -/
def ofName? (name : String) : Option Handler :=
  match name with
  | "custom_error_handler" => some .service
  | "value_error_handler" => some .badValue
  | "validation_error_handler" => some .invalidRequest
  | "general_500_exception_handler" => some .fallback
  | _ => none

end Handler

/-- The fixed statuses of the service's error classes. -/
def fixedStatus (className : String) : Option Nat :=
  match className with
  | "ForbiddenError" => some 403
  | "NotFoundError" => some 404
  | "ConflictError" | "InsufficientInventoryError" | "SeatUnavailableError" => some 409
  | "AuthenticationError" => some 401
  | "PaymentGatewayError" => some 502
  | "WebhookSignatureError" => some 400
  | _ => none

/-- The error of a class raised with a message, maybe a status, and error records. -/
def RaisedError.ofClass (className : String) (message : Json) (status : Option Json)
    (errors : List Json) : Except Failure RaisedError :=
  match className with
  | "CustomBaseError" => .ok (.service message (status.getD (.int 500)))
  | "DomainError" => .ok (.service message (status.getD (.int 400)))
  | "ValueError" => .ok (.badValue message)
  | "Exception" => .ok (.other message)
  | "RequestValidationError" => .ok (.invalidRequest errors)
  | name =>
    match fixedStatus name with
    | some code => if status.isSome then .error .wrongType else .ok (.service message (.int code))
    | none => .error .missingAttribute

/-- The text of a rejected request with its error records; see the module comment. -/
def invalidRequestText (errors : List Json) : Except Failure String := do
  let n := errors.length
  let head := toString n ++ " validation error" ++ (if n == 1 then "" else "s") ++ ":\n"
  let lines ← errors.mapM fun e => do pure ("  " ++ (← Json.display e) ++ "\n")
  pure (String.ofList ((head ++ String.join lines).toList.reverse.dropWhile Text.isBlank).reverse)

namespace RaisedError

/-- The handler registered for the error's kind. -/
def handler : RaisedError → Handler
  | .service .. => .service
  | .badValue _ => .badValue
  | .invalidRequest _ => .invalidRequest
  | .other _ => .fallback

/-- The text of the error. -/
def text : RaisedError → Except Failure String
  | .service m _ | .badValue m | .other m => Json.display m
  | .invalidRequest errors => invalidRequestText errors

end RaisedError

/-- An error record cut down to its location, message and type. -/
def errorRecord (record : Json) : Except Failure Json :=
  match record with
  | .obj members =>
    .ok (.obj (members.filter fun (k, _) => k == "loc" || k == "msg" || k == "type"))
  | _ => .error .missingAttribute

/-- The status and body a handler answers an error with; see the module comment. -/
def Handler.respond (h : Handler) (e : RaisedError) : Except Failure (Json × Json) :=
  match h, e with
  | .service, .service message status => .ok (status, .obj [("detail", message)])
  | .service, e => do .ok (.int 500, .obj [("detail", .str (← e.text))])
  | .badValue, e => do .ok (.int 400, .obj [("detail", .str (← e.text))])
  | .invalidRequest, .invalidRequest errors => do
    .ok (.int 400, .obj [("detail", .arr (← errors.mapM errorRecord))])
  | .invalidRequest, _ => .ok (.int 400, .obj [("detail", .arr [])])
  | .fallback, e => do
    let _ ← e.text
    .ok (.int 500, .obj [("detail", .str "Internal server error")])

/-- Whether a status can be compared with a number: a number or a truth value. -/
def comparableStatus : Json → Bool
  | .int _ | .num _ | .bool _ => true
  | _ => false

/-- The response to an error: its status and body, from the handler named, or else from the
handler of its kind; a body the JSON writer refuses fails, and then a status that cannot be
compared with a number. -/
def respond (e : RaisedError) (handler : Option Handler) : Except Failure Json := do
  let (status, body) ← (handler.getD e.handler).respond e
  if let some fault := body.writeFault? then throw fault
  if !comparableStatus status then throw .wrongType
  pure (.obj [("status_code", status), ("body", body)])

example : (invalidRequestText []).toOption = some "0 validation errors:" := by decide +kernel
example : (invalidRequestText [.str "trailing  "]).toOption =
    some "1 validation error:\n  trailing" := by
  decide +kernel

end TicketCheckout.Web
