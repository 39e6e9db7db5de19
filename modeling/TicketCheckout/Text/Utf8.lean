/-!
# UTF-8

Strict UTF-8: decoding refuses truncated sequences, overlong forms, encoded surrogates and
values above `0x10FFFF`, so a byte string decodes exactly when it is the encoding of some text.
A variant (`utf8DecodeAs?`) accepts encoded surrogates as one stand-in character each, for
readers that let surrogates through. Encoding is the one of core strings.

Lossy decoding (`utf8DecodeLossy`) never fails: each maximal prefix of a well-formed sequence
that cannot be completed, and each byte that cannot start one, becomes one replacement
character `U+FFFD`, the practice Unicode recommends (chapter 3, "U+FFFD Substitution of
Maximal Subparts").
-/

namespace TicketCheckout.Text

/-- Whether a byte continues a multi-byte sequence. -/
def isContinuation (b : UInt8) : Bool := b.toNat / 64 == 2

/-- The low six bits of a continuation byte. -/
def continuationBits (b : UInt8) : Nat := b.toNat % 64

/-- Decodes bytes into characters, refusing anything that is not UTF-8; an encoded surrogate
becomes `surrogate` when one is given and is refused otherwise. -/
def utf8DecodeAs? (surrogate : Option Char) : List UInt8 → Option (List Char)
  | [] => some []
  | b0 :: rest =>
    let n := b0.toNat
    if n < 0x80 then (utf8DecodeAs? surrogate rest).map (Char.ofNat n :: ·)
    else if 0xC2 ≤ n && n ≤ 0xDF then
      match rest with
      | b1 :: rest' =>
        if isContinuation b1 then
          (utf8DecodeAs? surrogate rest').map
            (Char.ofNat ((n % 32) * 64 + continuationBits b1) :: ·)
        else none
      | _ => none
    else if 0xE0 ≤ n && n ≤ 0xEF then
      match rest with
      | b1 :: b2 :: rest' =>
        if isContinuation b1 && isContinuation b2 then
          let v := ((n % 16) * 64 + continuationBits b1) * 64 + continuationBits b2
          if v < 0x800 then none
          else if 0xD800 ≤ v && v ≤ 0xDFFF then
            match surrogate with
            | some c => (utf8DecodeAs? surrogate rest').map (c :: ·)
            | none => none
          else (utf8DecodeAs? surrogate rest').map (Char.ofNat v :: ·)
        else none
      | _ => none
    else if 0xF0 ≤ n && n ≤ 0xF4 then
      match rest with
      | b1 :: b2 :: b3 :: rest' =>
        if isContinuation b1 && isContinuation b2 && isContinuation b3 then
          let v := (((n % 8) * 64 + continuationBits b1) * 64 + continuationBits b2) * 64 +
            continuationBits b3
          if v < 0x10000 || v > 0x10FFFF then none
          else (utf8DecodeAs? surrogate rest').map (Char.ofNat v :: ·)
        else none
      | _ => none
    else none

/-- Decodes bytes into characters, refusing anything that is not strict UTF-8. -/
def utf8Decode? (bytes : List UInt8) : Option (List Char) := utf8DecodeAs? none bytes

/-- For a lead byte of a multi-byte sequence: how many continuation bytes follow, and the range
the first of them must lie in (narrower after `E0`, `ED`, `F0` and `F4`, which rules out overlong
forms, surrogates and values above `0x10FFFF`). -/
def leadShape (n : Nat) : Option (Nat × Nat × Nat) :=
  if 0xC2 ≤ n && n ≤ 0xDF then some (1, 0x80, 0xBF)
  else if n == 0xE0 then some (2, 0xA0, 0xBF)
  else if n == 0xED then some (2, 0x80, 0x9F)
  else if 0xE1 ≤ n && n ≤ 0xEF then some (2, 0x80, 0xBF)
  else if n == 0xF0 then some (3, 0x90, 0xBF)
  else if n == 0xF4 then some (3, 0x80, 0x8F)
  else if 0xF1 ≤ n && n ≤ 0xF3 then some (3, 0x80, 0xBF)
  else none

/-- How many of at most `need` bytes continue a sequence, the first in `lo..hi` and the others
continuation bytes. -/
def continuedRun (lo hi : Nat) : Nat → List UInt8 → Nat
  | 0, _ => 0
  | _ + 1, [] => 0
  | k + 1, b :: rest =>
    if lo ≤ b.toNat && b.toNat ≤ hi then continuedRun 0x80 0xBF k rest + 1 else 0

/-- Decodes at most `fuel` sequences lossily; see the module comment. -/
def utf8DecodeLossyFuel : Nat → List UInt8 → List Char
  | 0, _ => []
  | _ + 1, [] => []
  | fuel + 1, b :: rest =>
    let n := b.toNat
    if n < 0x80 then Char.ofNat n :: utf8DecodeLossyFuel fuel rest
    else
      match leadShape n with
      | some (need, lo, hi) =>
        let m := continuedRun lo hi need rest
        if m == need then
          let v := (rest.take need).foldl (fun acc c => acc * 64 + continuationBits c)
            (n % Nat.pow 2 (6 - need))
          Char.ofNat v :: utf8DecodeLossyFuel fuel (rest.drop need)
        else '�' :: utf8DecodeLossyFuel fuel (rest.drop m)
      | none => '�' :: utf8DecodeLossyFuel fuel rest

/-- Decodes bytes into characters, replacing what is not UTF-8; every step takes at least one
byte, so the length of the input is enough fuel. -/
def utf8DecodeLossy (bytes : List UInt8) : List Char := utf8DecodeLossyFuel bytes.length bytes

/-- The UTF-8 bytes of a text. -/
def utf8Bytes (s : String) : List UInt8 := s.toUTF8.toList

example : utf8Decode? [0xC3, 0xBC] = some ['ü'] := by decide
example : utf8Decode? [0xED, 0xA0, 0x80] = none := by decide
example : utf8DecodeLossy [0x61, 0xF0, 0x9F, 0x62, 0xC3, 0xBC, 0xFF] = ['a', '�', 'b', 'ü', '�'] := by
  decide

end TicketCheckout.Text
