import TicketCheckout.Number.Decimal
import TicketCheckout.Text.Blank
import TicketCheckout.Text.DecimalDigit

/-!
# Decimal text

Reading and writing decimal numbers. Reading takes an optional sign, digits with an optional
point and an optional exponent (`E` or `e`, optional sign, digits), or `Infinity`/`Inf`, or
`NaN`/`sNaN` with optional payload digits, letters in either case. Blanks around the number are
ignored, low lines are ignored anywhere, and digits of any script count. A finite number that
cannot be held exactly is refused: one whose exponent is below `readMinExponent`, or whose
leading digit (for zero, the one digit) has an exponent above `readMaxExponent`.

Writing gives the scientific form of the general decimal arithmetic: plain notation when the
exponent is not positive and the number is not tiny (`20.00`, `0.125`, `-0.00`), otherwise one
digit before the point and an exponent (`1E+2`, `1.5E-7`).
-/

namespace TicketCheckout.Number

namespace Decimal

/-- The character of a digit value below ten. -/
def digitChar (d : Nat) : Char := Char.ofNat (48 + d)

/-- The characters of a text as the number reader sees them: low lines removed, digits of any
script written as ASCII digits, any other character above ASCII marked as unreadable. -/
def normalizeChars : List Char → Option (List Char)
  | [] => some []
  | c :: rest =>
    if c == '_' then normalizeChars rest
    else if c.toNat < 128 then (normalizeChars rest).map (c :: ·)
    else match Text.digitValue? c with
      | some d => (normalizeChars rest).map (digitChar d :: ·)
      | none => none

/-- Lowercases ASCII letters. -/
def lowerAscii (cs : List Char) : List Char := cs.map Char.toLower

/-- Reads an unsigned number (no blanks, no sign). -/
def readUnsigned (negative : Bool) (cs : List Char) : Option Decimal :=
  let low := lowerAscii cs
  if low == "inf".toList || low == "infinity".toList then some (.infinite negative)
  else if low.take 3 == "nan".toList then
    let p := low.drop 3
    if p.all Char.isDigit then some (.nan negative false (Text.asciiDigitsValue p)) else none
  else if low.take 4 == "snan".toList then
    let p := low.drop 4
    if p.all Char.isDigit then some (.nan negative true (Text.asciiDigitsValue p)) else none
  else
    let (intPart, rest) := Text.spanAsciiDigits cs
    let (fracPart, rest) :=
      match rest with
      | '.' :: r => Text.spanAsciiDigits r
      | _ => ([], rest)
    if intPart.isEmpty && fracPart.isEmpty then none
    else
      let expPart : Option Int :=
        match rest with
        | [] => some 0
        | c :: r =>
          if c == 'e' || c == 'E' then
            let (neg, ds) := match r with
              | '-' :: ds => (true, ds)
              | '+' :: ds => (false, ds)
              | ds => (false, ds)
            if !ds.isEmpty && ds.all Char.isDigit then
              let v : Int := Text.asciiDigitsValue ds
              some (if neg then -v else v)
            else none
          else none
      expPart.map fun e =>
        let coeff := Text.asciiDigitsValue (intPart ++ fracPart)
        .finite negative coeff (e - (fracPart.length : Int))

/-- The largest adjusted exponent (the exponent of the leading digit) of a number read. -/
def readMaxExponent : Int := 999999999999999999

/-- The smallest exponent of a number read: the smallest adjusted exponent, less the most
digits a coefficient may have, plus one. -/
def readMinExponent : Int := -1999999999999999997

/-- Whether a number read from text is held exactly; see the module comment. -/
def inReadRange : Decimal → Bool
  | .finite _ c e => readMinExponent ≤ e && e + digitCount c - 1 ≤ readMaxExponent
  | _ => true

/-- Reads a decimal number from text; see the module comment. -/
def ofText? (s : String) : Option Decimal := do
  let cs ← normalizeChars (Text.trimBlankChars s.toList)
  let d ← match cs with
    | '-' :: rest => readUnsigned true rest
    | '+' :: rest => readUnsigned false rest
    | _ => readUnsigned false cs
  if inReadRange d then pure d else none

/-- The ASCII digits of a natural number. -/
def natDigits (n : Nat) : List Char := Nat.toDigits 10 n

/-- The scientific text of a decimal number; see the module comment. -/
def toText : Decimal → String
  | .infinite neg => (if neg then "-" else "") ++ "Infinity"
  | .nan neg sig p =>
    (if neg then "-" else "") ++ (if sig then "sNaN" else "NaN") ++
      (if p == 0 then "" else String.ofList (natDigits p))
  | .finite neg c e =>
    let ds := natDigits c
    let n : Int := ds.length
    let left : Int := e + n
    let dot : Int := if e ≤ 0 && left > -6 then left else 1
    let body : List Char :=
      if dot ≤ 0 then '0' :: '.' :: (List.replicate (-dot).toNat '0' ++ ds)
      else if dot ≥ n then ds ++ List.replicate (dot - n).toNat '0'
      else ds.take dot.toNat ++ '.' :: ds.drop dot.toNat
    let expo : List Char :=
      if left == dot then []
      else
        let x := left - dot
        'E' :: (if x < 0 then '-' else '+') :: natDigits x.natAbs
    String.ofList ((if neg then ['-'] else []) ++ body ++ expo)

example : ofText? "1e1000000000000000000" = none := by decide +kernel
example : toText (.finite false 2000 (-2)) = "20.00" := by decide
example : toText (.finite false 1 2) = "1E+2" := by decide
example : toText (.finite true 0 (-2)) = "-0.00" := by decide

end Decimal

end TicketCheckout.Number
