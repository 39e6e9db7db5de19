import TicketCheckout.Json.Basic
import TicketCheckout.Text.Hex
import TicketCheckout.Text.DecimalDigit

/-!
# Reading JSON

A reader for the JSON grammar (RFC 8259) over characters. A `Dialect` holds the choices that
readers make differently beyond the grammar: whether `NaN`, `Infinity` and `-Infinity` are
numbers, how deep arrays and objects may nest, whether integers outside the 64-bit range turn
into binary64 numbers, whether a number too large for binary64 is refused, whether a lone
surrogate escape is accepted, and how many digits an integer may have. Two dialects are used:
`Dialect.lenient` for token headers and claims, `Dialect.strict` for webhook bodies and the
card processor's replies.

Numbers with a fraction or an exponent are binary64 values, rounded to nearest. A repeated
object key keeps the place of its first occurrence and the value of its last.
-/

namespace TicketCheckout.Json

/-- The choices of a JSON reader beyond the grammar; see the module comment. -/
structure Dialect where
  /-- `NaN`, `Infinity` and `-Infinity` are read as numbers. -/
  nonFinite : Bool
  /-- The deepest nesting of arrays and objects that is read. -/
  maxDepth : Nat
  /-- Integers below `-2 ^ 63` or above `2 ^ 64 - 1` are read as binary64 numbers. -/
  wideIntsAsFloats : Bool
  /-- A number whose binary64 value is infinite is refused. -/
  refuseOverflow : Bool
  /-- A surrogate escape without its partner is read as the replacement character. -/
  loneSurrogates : Bool
  /-- The most digits an integer may have, if there is a limit. -/
  maxIntDigits : Option Nat

namespace Dialect

/-- Non-finite literals and lone surrogates accepted, nesting up to 985 levels (what is left of
a budget of a thousand nested calls when reading starts), integers of at most 4300 digits, kept
exact; numbers too large for binary64 are infinite. -/
def lenient : Dialect := ⟨true, 985, false, false, true, some 4300⟩

/-- The grammar alone, nesting up to 1024 levels; wide integers become binary64 numbers, and a
number too large for binary64 is refused. -/
def strict : Dialect := ⟨false, 1024, true, true, false, none⟩

end Dialect

/-- The four whitespace characters of the grammar. -/
def isSpace (c : Char) : Bool := c == ' ' || c == '\t' || c == '\n' || c == '\r'

/-- Drops leading whitespace. -/
def skipSpace (cs : List Char) : List Char := cs.dropWhile isSpace

/-- The value of four hexadecimal digits. -/
def hex4? : List Char → Option (Nat × List Char)
  | a :: b :: c :: d :: rest => do
    let va ← Text.hexValue? a
    let vb ← Text.hexValue? b
    let vc ← Text.hexValue? c
    let vd ← Text.hexValue? d
    pure (((va * 16 + vb) * 16 + vc) * 16 + vd, rest)
  | _ => none

/-- The character of a `\u` escape whose four digits gave `u`, pairing a high surrogate with a
low one that follows as a second escape. -/
def unicodeEscape (d : Dialect) (u : Nat) (rest : List Char) : Option (Char × List Char) :=
  let lone : Option (Char × List Char) :=
    if d.loneSurrogates then some ('�', rest) else none
  if 0xD800 ≤ u && u ≤ 0xDBFF then
    match rest with
    | '\\' :: 'u' :: more =>
      match hex4? more with
      | some (l, rest') =>
        if 0xDC00 ≤ l && l ≤ 0xDFFF then
          some (Char.ofNat (0x10000 + (u - 0xD800) * 0x400 + (l - 0xDC00)), rest')
        else lone
      | none => lone
    | _ => lone
  else if 0xDC00 ≤ u && u ≤ 0xDFFF then lone
  else some (Char.ofNat u, rest)

/-- Reads the rest of a string after its opening quote, collecting characters in reverse. -/
def readStringRev (d : Dialect) (acc : List Char) : List Char → Option (String × List Char)
  | [] => none
  | '"' :: rest => some (String.ofList acc.reverse, rest)
  | '\\' :: e :: rest =>
    match e with
    | '"' => readStringRev d ('"' :: acc) rest
    | '\\' => readStringRev d ('\\' :: acc) rest
    | '/' => readStringRev d ('/' :: acc) rest
    | 'b' => readStringRev d ('\x08' :: acc) rest
    | 'f' => readStringRev d ('\x0c' :: acc) rest
    | 'n' => readStringRev d ('\n' :: acc) rest
    | 'r' => readStringRev d ('\r' :: acc) rest
    | 't' => readStringRev d ('\t' :: acc) rest
    | 'u' =>
      match hex4? rest with
      | some (u, rest') =>
        match unicodeEscape d u rest' with
        | some (c, rest'') =>
          -- the escape takes at least four characters, so the text shrinks
          if rest''.length < rest.length then readStringRev d (c :: acc) rest'' else none
        | none => none
      | none => none
    | _ => none
  | c :: rest => if c.toNat < 0x20 then none else readStringRev d (c :: acc) rest
termination_by cs => cs.length

/-- Reads a number: an optional minus, an integer part without leading zeros, an optional
fraction and an optional exponent. -/
def readNumber (d : Dialect) (cs : List Char) : Option (Json × List Char) :=
  let (negative, cs) := match cs with
    | '-' :: r => (true, r)
    | r => (false, r)
  let (intDigits, rest) := Text.spanAsciiDigits cs
  let leadingZero := match intDigits with
    | '0' :: _ :: _ => true
    | _ => false
  if intDigits.isEmpty || leadingZero then none else
  let (fracDigits, rest, hasFrac) := match rest with
    | '.' :: r =>
      let (f, r') := Text.spanAsciiDigits r
      (f, r', true)
    | r => ([], r, false)
  if hasFrac && fracDigits.isEmpty then none else
  let (expValue, rest, hasExp) : Option Int × List Char × Bool := match rest with
    | c :: r =>
      if c == 'e' || c == 'E' then
        let (neg, r) := match r with
          | '-' :: r' => (true, r')
          | '+' :: r' => (false, r')
          | r' => (false, r')
        let (ds, r) := Text.spanAsciiDigits r
        let v : Int := Text.asciiDigitsValue ds
        (if ds.isEmpty then none else some (if neg then -v else v), r, true)
      else (some 0, c :: r, false)
    | [] => (some 0, [], false)
  match expValue with
  | none => none
  | some e =>
    if !hasFrac && !hasExp then
      if d.maxIntDigits.any (intDigits.length > ·) then none else
      let n : Int := Text.asciiDigitsValue intDigits
      let n := if negative then -n else n
      if d.wideIntsAsFloats && (n < -Int.pow 2 63 || n > Int.pow 2 64 - 1) then
        let x := Number.Binary64.ofInt n
        if d.refuseOverflow && x.isInfinite then none else some (.num x, rest)
      else some (.int n, rest)
    else
      let x := Number.Binary64.ofDecimal negative (Text.asciiDigitsValue (intDigits ++ fracDigits))
        (e - (fracDigits.length : Int))
      if d.refuseOverflow && x.isInfinite then none else some (.num x, rest)

mutual

/-- Reads one value after optional whitespace; `depth` counts the enclosing containers and
`fuel` bounds the work (three steps per character suffice). -/
def readValue (d : Dialect) (depth : Nat) : Nat → List Char → Option (Json × List Char)
  | 0, _ => none
  | fuel + 1, cs =>
    match skipSpace cs with
    | '{' :: rest => if depth + 1 > d.maxDepth then none else readObject d (depth + 1) fuel rest
    | '[' :: rest => if depth + 1 > d.maxDepth then none else readArray d (depth + 1) fuel rest
    | '"' :: rest => (readStringRev d [] rest).map fun (s, r) => (.str s, r)
    | 't' :: 'r' :: 'u' :: 'e' :: rest => some (.bool true, rest)
    | 'f' :: 'a' :: 'l' :: 's' :: 'e' :: rest => some (.bool false, rest)
    | 'n' :: 'u' :: 'l' :: 'l' :: rest => some (.null, rest)
    | 'N' :: 'a' :: 'N' :: rest =>
      if d.nonFinite then some (.num Number.Binary64.nan, rest) else none
    | 'I' :: 'n' :: 'f' :: 'i' :: 'n' :: 'i' :: 't' :: 'y' :: rest =>
      if d.nonFinite then some (.num (Number.Binary64.infinity false), rest) else none
    | '-' :: 'I' :: 'n' :: 'f' :: 'i' :: 'n' :: 'i' :: 't' :: 'y' :: rest =>
      if d.nonFinite then some (.num (Number.Binary64.infinity true), rest) else none
    | cs' => readNumber d cs'

/-- Reads the rest of an array after its opening bracket. -/
def readArray (d : Dialect) (depth : Nat) : Nat → List Char → Option (Json × List Char)
  | 0, _ => none
  | fuel + 1, cs =>
    match skipSpace cs with
    | ']' :: rest => some (.arr [], rest)
    | _ => readItems d depth fuel [] cs

/-- Reads array items and their separators, collecting them in reverse. -/
def readItems (d : Dialect) (depth : Nat) :
    Nat → List Json → List Char → Option (Json × List Char)
  | 0, _, _ => none
  | fuel + 1, acc, cs =>
    match readValue d depth fuel cs with
    | none => none
    | some (v, rest) =>
      match skipSpace rest with
      | ',' :: rest' => readItems d depth fuel (v :: acc) rest'
      | ']' :: rest' => some (.arr (v :: acc).reverse, rest')
      | _ => none

/-- Reads the rest of an object after its opening brace. -/
def readObject (d : Dialect) (depth : Nat) : Nat → List Char → Option (Json × List Char)
  | 0, _ => none
  | fuel + 1, cs =>
    match skipSpace cs with
    | '}' :: rest => some (.obj [], rest)
    | _ => readMembers d depth fuel [] cs

/-- Reads object members and their separators, collecting them in reverse. -/
def readMembers (d : Dialect) (depth : Nat) :
    Nat → List (String × Json) → List Char → Option (Json × List Char)
  | 0, _, _ => none
  | fuel + 1, acc, cs =>
    match skipSpace cs with
    | '"' :: rest =>
      match readStringRev d [] rest with
      | none => none
      | some (key, rest) =>
        match skipSpace rest with
        | ':' :: rest =>
          match readValue d depth fuel rest with
          | none => none
          | some (v, rest) =>
            match skipSpace rest with
            | ',' :: rest' => readMembers d depth fuel ((key, v) :: acc) rest'
            | '}' :: rest' => some (objOfPairs ((key, v) :: acc).reverse, rest')
            | _ => none
        | _ => none
    | _ => none

end

/-- Reads a whole text as one value, whitespace allowed around it. -/
def readChars? (d : Dialect) (cs : List Char) : Option Json :=
  match readValue d 0 (3 * cs.length + 3) cs with
  | some (v, rest) => if (skipSpace rest).isEmpty then some v else none
  | none => none

/-- Reads a whole text as one value; see `readChars?`. -/
def read? (d : Dialect) (s : String) : Option Json := readChars? d s.toList

end TicketCheckout.Json
