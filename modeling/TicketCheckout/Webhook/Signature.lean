import TicketCheckout.Checkout.Failure
import TicketCheckout.Digest.Hmac
import TicketCheckout.Json.Reader
import TicketCheckout.Text.Hex
import TicketCheckout.Text.IntLiteral
import TicketCheckout.Text.Utf8

/-!
# Signed callbacks

The payment processor signs each callback with a secret shared with the service. The signature
header reads `t=<unix seconds>,v1=<signature>`, where the signature is the lowercase
hexadecimal HMAC-SHA256 of the text `<t>.` followed by the raw body.

Verifying a callback checks, in this order, and fails with the first problem found:
the header is present and not empty; every `t` field is an integer (the last one counts); a `t`
and at least one nonempty `v1` field are present; the timestamp lies within the tolerance of
the current time; one of the signatures matches; the body is JSON; the body is an object. The
body is read by a JSON reader given to the verifier; the service's (`readBody`) reads it as UTF-8
text in strict JSON. Fields
are separated by commas, blanks around a field are ignored, and a field is split at its first
`=`. Signatures are compared as ASCII text; a signature with other characters cannot be compared
and fails verification with a type error.
-/

namespace TicketCheckout.Webhook

/-- The signature of a body at a timestamp. -/
def digest (secret : List UInt8) (timestamp : Int) (body : List UInt8) : String :=
  Text.hexOfBytes (Digest.hmac .sha256 secret (Text.utf8Bytes (toString timestamp ++ ".") ++ body))

/-- The signature header for a body at a timestamp. -/
def sign (secret : List UInt8) (timestamp : Int) (body : List UInt8) : String :=
  "t=" ++ toString timestamp ++ ",v1=" ++ digest secret timestamp body

/-- A signature header's timestamp and signatures, in order. -/
structure Header where
  timestamp : Int
  signatures : List String

/-- Splits a field at its first `=`, after the blanks around the field are dropped. -/
def splitField (field : List Char) : String × String :=
  let cs := Text.trimBlankChars field
  (String.ofList (cs.takeWhile (· != '=')), String.ofList ((cs.dropWhile (· != '=')).drop 1))

/-- The fields of a signature header, in order: its parts between commas, each split at its
first `=` into a key and a value. -/
def Header.fields (text : String) : List (String × String) :=
  (text.toList.splitOn ',').map splitField

/-- Reads the fields of a header, keeping the last timestamp and every nonempty signature. -/
def readFields : List (String × String) → Option Int → List String →
    Except Failure (Option Int × List String)
  | [], t, sigs => .ok (t, sigs)
  | (key, value) :: rest, t, sigs =>
    if key == "t" then
      match Text.readInt? value with
      | some n => readFields rest (some n) sigs
      | none => .error (.badSignature "Malformed payment signature timestamp")
    else if key == "v1" && !value.isEmpty then readFields rest t (sigs ++ [value])
    else readFields rest t sigs

/-- Reads a signature header. -/
def Header.read (text : String) : Except Failure Header := do
  match ← readFields (Header.fields text) none [] with
  | (some t, sigs@(_ :: _)) => pure ⟨t, sigs⟩
  | _ => throw (.badSignature "Malformed payment signature header")

/-- A number of seconds as the verifier reads it (the current time, a tolerance): a whole
number, or a binary64 number. -/
inductive Seconds where
  | whole (seconds : Int)
  | real (seconds : Number.Binary64)

/-- The exact value of a whole number. -/
def wholeRatio (n : Int) : Number.Ratio := ⟨n < 0, n.natAbs, 1⟩

/-- Whether a distance (`none` when infinite) exceeds a tolerance, compared exactly. A tolerance
that is not a number is never exceeded, and an infinite one only when it is negative. -/
def exceeds (distance : Option Number.Ratio) : Seconds → Bool
  | .whole n => distance.all fun d => d.compare (wholeRatio n) == .gt
  | .real y =>
    if y.isNaN then false
    else if y.isInfinite then y.negative
    else distance.all fun d => d.compare y.toRatio == .gt

/-- Whether the timestamp `t` lies within `tolerance` seconds of `now`. With a whole `now` the
distance is exact. With a binary64 `now` it is computed in binary64 arithmetic, rounded to
nearest; a timestamp too large for binary64 fails, and a not-a-number distance is never beyond
the tolerance. The distance is then compared with the tolerance exactly (`exceeds`). -/
def withinTolerance (now : Seconds) (t : Int) (tolerance : Seconds) : Except Failure Bool := do
  let distance ← match now with
    | .whole n => pure (some (wholeRatio (n - t).natAbs))
    | .real x =>
      let tf := Number.Binary64.ofInt t
      if tf.isInfinite then throw .outOfRange
      if x.isNaN then return true
      if x.isInfinite then pure none
      else
        let diff := Number.Binary64.ofRatio (x.toRatio.sub tf.toRatio)
        pure (if diff.isInfinite then none else some { diff.toRatio with negative := false })
  pure !(exceeds distance tolerance)

/-- Whether one of the signatures equals the expected one, comparing in order; a signature
outside ASCII stops the comparison with a type error. -/
def anyMatches (expected : String) : List String → Except Failure Bool
  | [] => .ok false
  | sig :: rest =>
    if !sig.toList.all (·.toNat < 128) then .error .wrongType
    else if sig == expected then .ok true
    else anyMatches expected rest

/-- The service's reading of a callback body: UTF-8 text in strict JSON. -/
def readBody (body : List UInt8) : Option Json :=
  (Text.utf8Decode? body).bind (Json.readChars? .strict)

/-- Verifies a callback and gives its body, read by `loads`, as a JSON object; see the module
comment. -/
def verify (loads : List UInt8 → Option Json) (secret : List UInt8) (tolerance : Seconds)
    (body : List UInt8) (header : Option String) (now : Seconds) :
    Except Failure (List (String × Json)) := do
  let text ← match header with
    | some h => if h.isEmpty then throw (.badSignature "Missing payment signature header")
                else pure h
    | none => throw (.badSignature "Missing payment signature header")
  let h ← Header.read text
  if !(← withinTolerance now h.timestamp tolerance) then
    throw (.badSignature "Payment signature timestamp outside tolerance")
  if !(← anyMatches (digest secret h.timestamp body) h.signatures) then
    throw (.badSignature "Payment signature mismatch")
  match loads body with
  | none => throw (.badSignature "Webhook body is not valid JSON")
  | some (.obj members) => pure members
  | some _ => throw (.badSignature "Webhook body must be a JSON object")

end TicketCheckout.Webhook
