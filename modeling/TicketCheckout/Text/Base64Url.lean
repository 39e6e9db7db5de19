/-!
# URL-safe base 64

Encoding writes six bits per character from the alphabet `A–Z a–z 0–9 - _` and leaves out the
padding; the standard alphabet (`base64Encode`) differs in two characters and pads.

Decoding accepts the texts that encoding writes, each maybe followed by all of its padding:
characters of that alphabet only, then either no `=` or exactly as many as fill the last group
of four, no last group of a single character, and no set bit among the unused low bits of a last
short group. So the text before the padding is exactly the encoding of the decoding.
-/

namespace TicketCheckout.Text

/-- The character for a six-bit value in the URL-safe alphabet. -/
def base64UrlChar (n : Nat) : Char :=
  if n < 26 then Char.ofNat (65 + n)
  else if n < 52 then Char.ofNat (71 + n)
  else if n < 62 then Char.ofNat (n - 4)
  else if n == 62 then '-' else '_'

/-- Encodes bytes, three at a time, without padding. -/
def base64UrlEncodeList : List UInt8 → List Char
  | [] => []
  | [a] =>
    let n := a.toNat
    [base64UrlChar (n / 4), base64UrlChar (n % 4 * 16)]
  | [a, b] =>
    let n := a.toNat * 256 + b.toNat
    [base64UrlChar (n / 1024), base64UrlChar (n / 16 % 64), base64UrlChar (n % 16 * 4)]
  | a :: b :: c :: rest =>
    let n := (a.toNat * 256 + b.toNat) * 256 + c.toNat
    [base64UrlChar (n / 262144), base64UrlChar (n / 4096 % 64), base64UrlChar (n / 64 % 64),
      base64UrlChar (n % 64)] ++ base64UrlEncodeList rest

/-- The URL-safe base 64 text of a byte string, without padding. -/
def base64UrlEncode (bytes : List UInt8) : String := String.ofList (base64UrlEncodeList bytes)

/-- The standard base 64 text of a byte string (RFC 4648, section 4): the alphabet with `+` and
`/` in place of `-` and `_`, padded with `=` to a multiple of four characters. -/
def base64Encode (bytes : List UInt8) : String :=
  let cs := (base64UrlEncodeList bytes).map fun c =>
    if c == '-' then '+' else if c == '_' then '/' else c
  String.ofList (cs ++ List.replicate ((4 - cs.length % 4) % 4) '=')

/-- The six-bit value of a character of the URL-safe alphabet. -/
def base64UrlValue? (c : Char) : Option Nat :=
  if 'A' ≤ c && c ≤ 'Z' then some (c.toNat - 65)
  else if 'a' ≤ c && c ≤ 'z' then some (c.toNat - 71)
  else if '0' ≤ c && c ≤ '9' then some (c.toNat + 4)
  else if c == '-' then some 62
  else if c == '_' then some 63
  else none

/-- Decodes groups of characters of the URL-safe alphabet, four at a time; a last group of two
or three characters must leave its unused low bits zero. -/
def base64UrlDecodeList? : List Char → Option (List UInt8)
  | [] => some []
  | [a, b] => do
    let va ← base64UrlValue? a
    let vb ← base64UrlValue? b
    if vb % 16 != 0 then none else pure [(va * 4 + vb / 16).toUInt8]
  | [a, b, c] => do
    let va ← base64UrlValue? a
    let vb ← base64UrlValue? b
    let vc ← base64UrlValue? c
    if vc % 4 != 0 then none
    else pure [(va * 4 + vb / 16).toUInt8, (vb % 16 * 16 + vc / 4).toUInt8]
  | a :: b :: c :: d :: rest => do
    let va ← base64UrlValue? a
    let vb ← base64UrlValue? b
    let vc ← base64UrlValue? c
    let vd ← base64UrlValue? d
    let tail ← base64UrlDecodeList? rest
    pure ((va * 4 + vb / 16).toUInt8 :: (vb % 16 * 16 + vc / 4).toUInt8 ::
      (vc % 4 * 64 + vd).toUInt8 :: tail)
  | [_] => none

/-- Decodes URL-safe base 64 text; see the module comment. -/
def base64UrlDecode? (s : String) : Option (List UInt8) :=
  let body := s.toList.reverse.dropWhile (· == '=') |>.reverse
  let padding := s.length - body.length
  if padding == 0 || padding == (4 - body.length % 4) % 4 then base64UrlDecodeList? body
  else none

example : base64UrlEncode [104, 105] = "aGk" := by decide
example : base64Encode [251, 255] = "+/8=" := by decide
example : base64UrlDecode? "aGl" = none := by decide
example : base64UrlDecode? "aGk=" = some [104, 105] := by decide

end TicketCheckout.Text
