import TicketCheckout.Json.Reader
import TicketCheckout.Text.Utf8

/-!
# JSON texts as bytes

A JSON text may arrive in UTF-8, UTF-16 or UTF-32 (RFC 4627, section 3). A byte order mark
names the encoding and is dropped. Without one, the zero bytes among the first four tell it,
since a JSON text starts with ASCII: `00 00 ..` is UTF-32 big-endian, `00 ..` UTF-16
big-endian, `.. 00 00 00` UTF-32 little-endian, `.. 00` UTF-16 little-endian, and anything
else UTF-8.

Decoding lets surrogates through: a UTF-16 surrogate that is not half of a pair, or a surrogate
encoded on its own in UTF-8 or UTF-32, reads as the replacement character `U+FFFD`. Any other
malformed sequence, and a length that is not a whole number of code units, fails.
-/

namespace TicketCheckout.Json

/-- The encodings of a JSON text. -/
inductive Encoding where
  | utf8
  | utf16 (bigEndian : Bool)
  | utf32 (bigEndian : Bool)
  deriving DecidableEq, Repr

/-- The encoding of a JSON text and the bytes after its byte order mark; see the module
comment. -/
def detectEncoding : List UInt8 → Encoding × List UInt8
  | 0x00 :: 0x00 :: 0xFE :: 0xFF :: rest => (.utf32 true, rest)
  | 0xFF :: 0xFE :: 0x00 :: 0x00 :: rest => (.utf32 false, rest)
  | 0xFE :: 0xFF :: rest => (.utf16 true, rest)
  | 0xFF :: 0xFE :: rest => (.utf16 false, rest)
  | 0xEF :: 0xBB :: 0xBF :: rest => (.utf8, rest)
  | bs@(b0 :: b1 :: b2 :: b3 :: _) =>
    if b0 == 0 then (if b1 != 0 then .utf16 true else .utf32 true, bs)
    else if b1 == 0 then (if b2 != 0 || b3 != 0 then .utf16 false else .utf32 false, bs)
    else (.utf8, bs)
  | [b0, b1] =>
    if b0 == 0 then (.utf16 true, [b0, b1])
    else if b1 == 0 then (.utf16 false, [b0, b1])
    else (.utf8, [b0, b1])
  | bs => (.utf8, bs)

/-- The replacement character, which stands for a surrogate. -/
def surrogateStandIn : Char := '�'

/-- Whether a code unit is a high (leading) surrogate. -/
def isHighSurrogate (u : Nat) : Bool := 0xD800 ≤ u && u ≤ 0xDBFF

/-- Whether a code unit is a low (trailing) surrogate. -/
def isLowSurrogate (u : Nat) : Bool := 0xDC00 ≤ u && u ≤ 0xDFFF

/-- The 16-bit code units of bytes taken two at a time. -/
def units16? (bigEndian : Bool) : List UInt8 → Option (List Nat)
  | [] => some []
  | a :: b :: rest =>
    let u := if bigEndian then a.toNat * 256 + b.toNat else b.toNat * 256 + a.toNat
    (units16? bigEndian rest).map (u :: ·)
  | [_] => none

/-- The character of one code unit: a surrogate is the stand-in. -/
def charOfUnit16 (u : Nat) : Char :=
  if isHighSurrogate u || isLowSurrogate u then surrogateStandIn else Char.ofNat u

/-- Characters of UTF-16 code units: a high surrogate followed by a low one is one character;
any other surrogate is the stand-in. -/
def charsOfUnits16 : List Nat → List Char
  | [] => []
  | [u] => [charOfUnit16 u]
  | u :: l :: rest =>
    if isHighSurrogate u && isLowSurrogate l then
      Char.ofNat (0x10000 + (u - 0xD800) * 0x400 + (l - 0xDC00)) :: charsOfUnits16 rest
    else charOfUnit16 u :: charsOfUnits16 (l :: rest)

/-- Characters of bytes taken four at a time; a value above `0x10FFFF` fails. -/
def charsOfUtf32? (bigEndian : Bool) : List UInt8 → Option (List Char)
  | [] => some []
  | a :: b :: c :: d :: rest =>
    let u := if bigEndian then ((a.toNat * 256 + b.toNat) * 256 + c.toNat) * 256 + d.toNat
      else ((d.toNat * 256 + c.toNat) * 256 + b.toNat) * 256 + a.toNat
    if u > 0x10FFFF then none
    else
      let ch := if isHighSurrogate u || isLowSurrogate u then surrogateStandIn else Char.ofNat u
      (charsOfUtf32? bigEndian rest).map (ch :: ·)
  | _ => none

/-- The characters of a JSON text in bytes; see the module comment. -/
def decodeText? (bytes : List UInt8) : Option (List Char) :=
  match detectEncoding bytes with
  | (.utf8, rest) => Text.utf8DecodeAs? (some surrogateStandIn) rest
  | (.utf16 be, rest) => (units16? be rest).map charsOfUnits16
  | (.utf32 be, rest) => charsOfUtf32? be rest

/-- Reads a JSON text in bytes in a dialect. -/
def readBytes? (d : Dialect) (bytes : List UInt8) : Option Json :=
  (decodeText? bytes).bind (readChars? d)

example : decodeText? [0x7B, 0x00, 0x7D, 0x00] = some ['{', '}'] := by decide
example : decodeText? [0xFF, 0xFE, 0x00, 0xD8, 0x41, 0x00] = some ['�', 'A'] := by decide
example : (detectEncoding [0x7B, 0x22, 0x61, 0x22]).1 = .utf8 := by decide

end TicketCheckout.Json
