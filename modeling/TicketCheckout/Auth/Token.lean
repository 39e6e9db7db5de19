import TicketCheckout.Auth.Secret
import TicketCheckout.Digest.Hmac
import TicketCheckout.Json.Bytes
import TicketCheckout.Json.Coerce
import TicketCheckout.Json.Writer
import TicketCheckout.Text.Base64Url
import TicketCheckout.Text.Utf8

/-!
# Signed tokens

Callers authenticate with a signed token (JSON Web Token, RFC 7519) issued with a secret the
service shares: three URL-safe base 64 segments, a header, the claims and an HMAC signature of
the first two segments joined by a point.

Reading a token (`readToken`) splits it at the last point and then at the first, and decodes the
three segments (`Text.base64UrlDecode?`, which takes only the canonical text of each byte
string, maybe padded). The header must be a JSON object in any Unicode encoding
(`Json.readBytes?`) whose key id, if any, is a text; whose critical extensions (`crit`), if
listed, form a nonempty list of texts that the reader knows (`b64`) and that the header carries;
and whose payload is not detached (`b64` is not false). Its `alg` must be the one allowed
algorithm, the secret must be able to sign (`suitable`), and the signature must match. Since
every failure up to here is the same, the secret is checked first. The claims must be a JSON
object too, and the registered claims are checked in this order: `iat` and `nbf` (whole numbers
not after now), `exp` (a whole number after now, else the token has expired), `aud` (absent or
empty), `sub` and `jti` (texts when present); the issuer `iss` is not checked. Every failure is
an invalid token, except an expired token.

Writing a token (`writeToken`) serializes the claims compactly with every character outside
printable ASCII escaped, under the header `{"alg":...,"typ":"JWT"}`. Claims whose issuer `iss`
is not a text are a type error, and then a secret that cannot sign is refused.

The service reads tokens with `TokenSettings.decode`: its secret, its one algorithm and the
current time.
-/

namespace TicketCheckout.Auth

/-- The signing algorithms tokens may name. -/
inductive Algorithm where
  | hs256
  | hs384
  | hs512
  /-- No signature at all; never accepted when reading. -/
  | unsigned
  deriving DecidableEq, Repr

namespace Algorithm

/-- The algorithm's name in token headers. -/
def name : Algorithm → String
  | .hs256 => "HS256"
  | .hs384 => "HS384"
  | .hs512 => "HS512"
  | .unsigned => "none"

/-- The algorithm with a name. -/
def ofName? (s : String) : Option Algorithm :=
  [Algorithm.hs256, .hs384, .hs512, .unsigned].find? (·.name == s)

/-- The signature of a message. -/
def signature (alg : Algorithm) (key msg : List UInt8) : List UInt8 :=
  match alg with
  | .hs256 => Digest.hmac .sha256 key msg
  | .hs384 => Digest.hmac .sha384 key msg
  | .hs512 => Digest.hmac .sha512 key msg
  | .unsigned => []

end Algorithm

/-- An invalid token. -/
def invalidToken : Failure := .unauthenticated "Invalid token"

/-- Writes a token for claims, signed with `key`; see the module comment. -/
def writeToken (claims : Json) (key : String) (alg : Algorithm) : Except Failure String := do
  if (claims.get? "iss").any (fun v => v.str?.isNone) then throw .wrongType
  if !suitable key then throw .unsuitableKey
  let header : Json := .obj [("alg", .str alg.name), ("typ", .str "JWT")]
  let seg (v : Json) := Text.base64UrlEncode (Text.utf8Bytes (Json.write .compactAscii v))
  let input := seg header ++ "." ++ seg claims
  pure (input ++ "." ++
    Text.base64UrlEncode (alg.signature (Text.utf8Bytes key) (Text.utf8Bytes input)))

/-- The extensions a token header may list as critical. -/
def knownExtensions : List String := ["b64"]

/-- Whether a listed critical extension is known and carried by the header. -/
def extensionCarried (header : List (String × Json)) : Json → Bool
  | .str e => knownExtensions.contains e && (header.lookup e).isSome
  | _ => false

/-- Whether a token header is acceptable apart from its algorithm; see the module comment. -/
def headerAcceptable (header : List (String × Json)) : Bool :=
  let kidOk := match header.lookup "kid" with
    | some (.str _) | none => true
    | some _ => false
  let critOk := match header.lookup "crit" with
    | none => true
    | some (.arr (e :: es)) => (e :: es).all (extensionCarried header)
    | some _ => false
  let attached := match header.lookup "b64" with
    | some (.bool false) => false
    | _ => true
  kidOk && critOk && attached

/-- Splits a token at its last point, then the part before at its first point. -/
def splitToken (token : String) : Option (String × String × String) :=
  let cs := token.toList
  let rev := cs.reverse
  let sigRev := rev.takeWhile (· != '.')
  if sigRev.length == rev.length then none else
  let input := (rev.drop (sigRev.length + 1)).reverse
  let header := input.takeWhile (· != '.')
  if header.length == input.length then none else
  some (String.ofList header, String.ofList (input.drop (header.length + 1)),
    String.ofList sigRev.reverse)

/-- The whole number of a time claim, if it has one (`Json.wholeNumber`). -/
def timeOf? (v : Json) : Option Int := (Json.wholeNumber v).toOption

/-- Checks a time claim that must not be after `now`. -/
def notAfter (claims : List (String × Json)) (key : String) (now : Int) :
    Except Failure Unit :=
  match claims.lookup key with
  | none => .ok ()
  | some v =>
    match timeOf? v with
    | some t => if t > now then .error invalidToken else .ok ()
    | none => .error invalidToken

/-- Checks the registered claims at `now`; see the module comment. -/
def checkClaims (claims : List (String × Json)) (now : Int) : Except Failure Unit := do
  notAfter claims "iat" now
  notAfter claims "nbf" now
  match claims.lookup "exp" with
  | none => pure ()
  | some v =>
    match timeOf? v with
    | some t => if t ≤ now then throw (.unauthenticated "Token expired")
    | none => throw invalidToken
  if (claims.lookup "aud").any Json.truthy then throw invalidToken
  if (claims.lookup "sub").any (fun v => v.str?.isNone) then throw invalidToken
  if (claims.lookup "jti").any (fun v => v.str?.isNone) then throw invalidToken

/-- Reads a token signed with `key` under the algorithm named `allowed`, at `now` (seconds
since the epoch); gives its claims. -/
def readToken (token : String) (key : String) (allowed : String) (now : Int) :
    Except Failure (List (String × Json)) := do
  if !suitable key then throw invalidToken
  let some (h, p, s) := splitToken token | throw invalidToken
  let some headerBytes := Text.base64UrlDecode? h | throw invalidToken
  let some (.obj header) := Json.readBytes? .lenient headerBytes | throw invalidToken
  let some payload := Text.base64UrlDecode? p | throw invalidToken
  let some sig := Text.base64UrlDecode? s | throw invalidToken
  if !headerAcceptable header then throw invalidToken
  let alg ← match header.lookup "alg" with
    | some (.str a) => if a == allowed then pure a else throw invalidToken
    | _ => throw invalidToken
  let some algorithm := Algorithm.ofName? alg | throw invalidToken
  if algorithm == .unsigned then throw invalidToken
  if algorithm.signature (Text.utf8Bytes key) (Text.utf8Bytes (h ++ "." ++ p)) != sig then
    throw invalidToken
  let some (.obj claims) := Json.readBytes? .lenient payload | throw invalidToken
  checkClaims claims now
  pure claims

/-- The settings tokens are read with. -/
structure TokenSettings where
  secret : String
  algorithm : String
  /-- The current time, in seconds since the epoch. -/
  now : Int

/-- Reads a token with the settings. -/
def TokenSettings.decode (settings : TokenSettings) (token : String) :
    Except Failure (List (String × Json)) :=
  readToken token settings.secret settings.algorithm settings.now

end TicketCheckout.Auth
