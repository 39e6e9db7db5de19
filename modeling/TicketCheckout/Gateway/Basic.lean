import TicketCheckout.Checkout.Failure
import TicketCheckout.Gateway.Address
import TicketCheckout.Json.Writer
import TicketCheckout.Text.Hex

/-!
# Payment gateways

A payment gateway opens a payment intent for an amount in minor units and a currency, and
answers with the intent's id and the client secret the buyer's browser confirms it with.

* The local gateway makes both from random tokens: `pi_mock_` and 24 hexadecimal digits, and
  the id, `_secret_` and 16 more digits. Tokens are drawn from a counter here, so the `k`-th
  token of a session is `k` in hexadecimal.
* The card processor is called over HTTP: a form-encoded `POST` to `v1/payment_intents` below
  its base address (`Address.join`), with the secret key as bearer token unless the address
  carries user information. What the transport does with the request is a `Reply`: it raises an
  exception or answers with a status and a body. The client (`readReply`) turns an exception of
  the HTTP library's `HTTPError` family into a gateway failure and lets every other exception
  through; it refuses an error status (400 to 599) and a body that its JSON reader (`loads`) does
  not read as an object with `id` and `client_secret`, and takes the two values as they are.
  The processor is scripted here (`ProcessorScript`): which exception occurs, or what it answers.
-/
namespace TicketCheckout.Gateway

/-- An opened payment intent. The processor's values are kept as it sent them. -/
structure PaymentIntent where
  id : Json
  clientSecret : Json

/-- A request sent to the card processor. -/
structure Request where
  method : String
  path : String
  authorization : String
  /-- The form fields, in the order sent. -/
  form : List (String × String)

/-- The exception classes of the HTTP client library. All but the last seven derive from
`HTTPError`: the request errors (`RequestError`), among them the transport errors (timeouts,
network, protocol and proxy errors, an unsupported protocol), a body that cannot be decoded and
too many redirects, and an error status raised on request (`HTTPStatusError`). An invalid URL, a
cookie conflict and the stream errors do not. -/
inductive HttpException where
  | httpError | requestError | transportError | timeoutException | connectTimeout | readTimeout
  | writeTimeout | poolTimeout | networkError | connectError | readError | writeError | closeError
  | protocolError | localProtocolError | remoteProtocolError | proxyError | unsupportedProtocol
  | decodingError | tooManyRedirects | httpStatusError
  | invalidUrl | cookieConflict | streamError | streamConsumed | streamClosed | responseNotRead
  | requestNotRead
  deriving DecidableEq, Repr

namespace HttpException

/-- Every exception class, in the order above. -/
def all : List HttpException :=
  [httpError, requestError, transportError, timeoutException, connectTimeout, readTimeout,
    writeTimeout, poolTimeout, networkError, connectError, readError, writeError, closeError,
    protocolError, localProtocolError, remoteProtocolError, proxyError, unsupportedProtocol,
    decodingError, tooManyRedirects, httpStatusError, invalidUrl, cookieConflict, streamError,
    streamConsumed, streamClosed, responseNotRead, requestNotRead]

/-- The class name. -/
def name : HttpException → String
  | httpError => "HTTPError" | requestError => "RequestError"
  | transportError => "TransportError" | timeoutException => "TimeoutException"
  | connectTimeout => "ConnectTimeout" | readTimeout => "ReadTimeout"
  | writeTimeout => "WriteTimeout" | poolTimeout => "PoolTimeout"
  | networkError => "NetworkError" | connectError => "ConnectError" | readError => "ReadError"
  | writeError => "WriteError" | closeError => "CloseError" | protocolError => "ProtocolError"
  | localProtocolError => "LocalProtocolError" | remoteProtocolError => "RemoteProtocolError"
  | proxyError => "ProxyError" | unsupportedProtocol => "UnsupportedProtocol"
  | decodingError => "DecodingError" | tooManyRedirects => "TooManyRedirects"
  | httpStatusError => "HTTPStatusError" | invalidUrl => "InvalidURL"
  | cookieConflict => "CookieConflict" | streamError => "StreamError"
  | streamConsumed => "StreamConsumed" | streamClosed => "StreamClosed"
  | responseNotRead => "ResponseNotRead" | requestNotRead => "RequestNotRead"

/-- Whether the class derives from `HTTPError`. -/
def isHttpError : HttpException → Bool
  | invalidUrl | cookieConflict | streamError | streamConsumed | streamClosed | responseNotRead
  | requestNotRead => false
  | _ => true

/-- The class with a name. -/
def ofName? (s : String) : Option HttpException := all.find? (·.name == s)

end HttpException

/-- What the transport does with a request: it raises an exception of the HTTP library, raises
another failure, or answers with a status and a body. -/
inductive Reply where
  | raised (exception : HttpException)
  | failed (failure : Failure)
  | answered (status : Nat) (body : String)

/-- How the card processor behaves for one call. -/
structure ProcessorScript where
  /-- The exception the transport raises instead of answering. -/
  fault : Option HttpException := none
  /-- The reply's status. -/
  status : Nat := 200
  /-- The reply's text; without one the processor answers with `intentId` and `secret`. -/
  body : Option String := none
  intentId : Json
  secret : Json
  baseUrl : String
  secretKey : String

/-- Which gateway opens intents. -/
inductive Kind where
  | local
  | processor (script : ProcessorScript)

/-- The intent the local gateway opens with the token numbers `k` and `k + 1`. -/
def localIntent (k : Nat) : PaymentIntent :=
  let id := "pi_mock_" ++ Text.hexPadded k 24
  ⟨.str id, .str (id ++ "_secret_" ++ Text.hexPadded (k + 1) 16)⟩

/-- The path of the endpoint that opens intents. -/
def intentsEndpoint : String := "/v1/payment_intents"

/-- The address of the intents endpoint below a base address. -/
def intentsAddress (baseUrl : String) : Address := (Address.parse baseUrl).join intentsEndpoint

/-- The request that opens an intent: basic authentication when the base address carries user
information, else the secret key as bearer token. -/
def intentRequest (script : ProcessorScript) (amount : Int) (currency : String) : Request :=
  let address := intentsAddress script.baseUrl
  { method := "POST", path := address.decodedPath,
    authorization := match address.basicCredentials with
      | some credentials => "Basic " ++ credentials
      | none => "Bearer " ++ script.secretKey,
    form := [("amount", toString amount), ("currency", currency),
      ("automatic_payment_methods[enabled]", "true")] }

/-- Whether a header value can carry the text (ASCII only). -/
def headerSafe (s : String) : Bool := s.toList.all fun c => c.toNat < 128

/-- Sets up a gateway's client before any order is placed: the client refuses a base address
that is not well formed (`Address.wellFormed`), and then a secret key that a header cannot
carry, since the key travels in a header. -/
def Kind.connect : Kind → Except Failure Unit
  | .local => .ok ()
  | .processor script =>
    if !Address.wellFormed script.baseUrl then .error .badAddress
    else if headerSafe script.secretKey then .ok ()
    else .error .badEncoding

/-- What the scripted transport does: it raises the scripted exception; at a base address that
cannot be fetched it fails with a bad value before sending; otherwise it answers with the
scripted status and body. -/
def ProcessorScript.send (script : ProcessorScript) : Reply :=
  match script.fault with
  | some x => .raised x
  | none =>
    if !(intentsAddress script.baseUrl).fetchable then
      .failed (.badValue ("unknown url type: " ++ script.baseUrl))
    else
      .answered script.status (script.body.getD
        (Json.write .compact (.obj [("id", script.intentId), ("client_secret", script.secret)])))

/-- The intent in the transport's reply, or why there is none, with `loads` reading the body;
see the module comment. -/
def readReply (loads : String → Option Json) (reply : Reply) : Except Failure PaymentIntent :=
  match reply with
  | .raised x =>
    if x.isHttpError then .error (.gatewayFailed s!"Payment gateway unreachable: {x.name}")
    else .error (.unexpected x.name)
  | .failed f => .error f
  | .answered status body =>
    if 400 ≤ status && status ≤ 599 then
      .error (.gatewayFailed s!"Payment gateway rejected the request with status {status}")
    else
      let malformed : Failure :=
        .gatewayFailed "Payment gateway returned a malformed payment intent"
      match loads body with
      | some (.obj members) =>
        match members.lookup "id", members.lookup "client_secret" with
        | some id, some secret => .ok ⟨id, secret⟩
        | _, _ => .error malformed
      | _ => .error malformed

example : (localIntent 1).id.str? = some "pi_mock_000000000000000000000001" := by decide +kernel
example : (intentsAddress "https://gw.example/base").decodedPath = "/base/v1/payment_intents" := by
  decide +kernel

end TicketCheckout.Gateway
