/-!
# Hexadecimal text

Lowercase hexadecimal digits of numbers and byte strings, and the reading of a byte string
written as pairs of hexadecimal digits (either case, nothing between the pairs).
-/

namespace TicketCheckout.Text

/-- The lowercase hexadecimal digit of a value below sixteen. -/
def hexDigit (n : Nat) : Char :=
  if n < 10 then Char.ofNat (48 + n) else Char.ofNat (87 + n)

/-- The value of a hexadecimal digit of either case. -/
def hexValue? (c : Char) : Option Nat :=
  if '0' ≤ c && c ≤ '9' then some (c.toNat - 48)
  else if 'a' ≤ c && c ≤ 'f' then some (c.toNat - 87)
  else if 'A' ≤ c && c ≤ 'F' then some (c.toNat - 55)
  else none

/-- The lowest `width` hexadecimal digits of `n`, most significant first. -/
def hexDigits (n : Nat) : Nat → List Char
  | 0 => []
  | w + 1 => hexDigits (n / 16) w ++ [hexDigit (n % 16)]

/-- `n` in lowercase hexadecimal, padded on the left with zeros to `width` digits; a value
that needs more digits keeps all of them. -/
def hexPadded (n width : Nat) : String :=
  let need := (Nat.toDigits 16 n).length
  String.ofList (hexDigits n (max width need))

/-- Two lowercase hexadecimal digits per byte. -/
def hexOfBytes (bytes : List UInt8) : String :=
  String.ofList (bytes.flatMap fun b => hexDigits b.toNat 2)

/-- The bytes written as pairs of hexadecimal digits. -/
def bytesOfHex? : List Char → Option (List UInt8)
  | [] => some []
  | a :: b :: rest => do
    let hi ← hexValue? a
    let lo ← hexValue? b
    let tail ← bytesOfHex? rest
    pure ((16 * hi + lo).toUInt8 :: tail)
  | [_] => none

example : hexPadded 1 24 = "000000000000000000000001" := by decide
example : hexOfBytes [0, 255, 16] = "00ff10" := by decide

end TicketCheckout.Text
