import TicketCheckout.Number.Extended

/-!
# Binary64 text

A binary64 value is written with the fewest significant digits that read back to it
(`Binary64.shortestDigits`). A `FloatStyle` makes the remaining choices: where positional
notation gives way to an exponent, whether a whole number keeps `.0`, how the exponent is
written and what the non-finite values are called. `FloatStyle.repr` is the style of the
service's runtime and of its JSON output: positional for decimal exponents from `-4` to `15`,
then `1e+16` and `1e-05`.

The general text with a precision (`toGeneralText`) is the one the store writes when a binary64
value lands in a text column: that many significant digits as a writer in extended precision
produces them (`Binary64.extendedDigits`), positional for decimal exponents from `-4` to one
below the precision and otherwise with an exponent of at least two digits; trailing zeros of the
fraction are dropped, but the point keeps one digit after it, so `1e16` is `1.0e+16` and
`0.1000000000000001` is `0.1`. Zeros of either sign are `0.0`.
-/

namespace TicketCheckout.Number

/-- The choices a shortest-digits float text leaves open. -/
structure FloatStyle where
  /-- The point position (digits before the point) from which positional notation is used. -/
  lowPoint : Int
  /-- The point position up to which positional notation is used. -/
  highPoint : Int
  /-- Least number of exponent digits. -/
  expDigits : Nat
  /-- Text of the not-a-number value. -/
  nanText : String
  /-- Text of the positive infinity. -/
  infText : String

namespace FloatStyle

/-- Positional from `0.0001` to below `1e16`, otherwise one digit, a point if more digits
follow, `e`, a sign and at least two exponent digits; `inf` and `nan`. -/
def repr : FloatStyle := ⟨-3, 16, 2, "nan", "inf"⟩

/-- As `repr`, with the non-finite values named as JSON writers name them. -/
def json : FloatStyle := { repr with nanText := "NaN", infText := "Infinity" }

end FloatStyle

namespace Binary64

/-- The text of a value in a style; see the module comment. -/
def toText (style : FloatStyle) (x : Binary64) : String :=
  let sign := if x.negative then "-" else ""
  if x.isNaN then style.nanText
  else if x.isInfinite then sign ++ style.infText
  else if x.isZero then sign ++ "0.0"
  else
    let (d, p) := x.shortestDigits
    let ds := Nat.toDigits 10 d
    let n : Int := ds.length
    -- the value is 0.ds × 10 ^ point
    let point : Int := p + n
    if style.lowPoint ≤ point && point ≤ style.highPoint then
      let body :=
        if point ≤ 0 then '0' :: '.' :: (List.replicate (-point).toNat '0' ++ ds)
        else if point ≥ n then ds ++ List.replicate (point - n).toNat '0' ++ ['.', '0']
        else ds.take point.toNat ++ '.' :: ds.drop point.toNat
      sign ++ String.ofList body
    else
      let e := point - 1
      let mant := match ds with
        | [] => ['0']
        | [c] => [c]
        | c :: rest => c :: '.' :: rest
      let eds := Nat.toDigits 10 e.natAbs
      let eds := List.replicate (style.expDigits - eds.length) '0' ++ eds
      sign ++ String.ofList (mant ++ 'e' :: (if e < 0 then '-' else '+') :: eds)

/-- The fraction digits of a general text: trailing zeros dropped, but at least one digit. -/
def fractionDigits (ds : List Char) : List Char :=
  match (ds.reverse.dropWhile (· == '0')).reverse with
  | [] => ['0']
  | f => f

/-- The general text of a value with `precision` significant digits, `precision` positive; see
the module comment. -/
def toGeneralText (precision : Nat) (x : Binary64) : String :=
  let sign := if x.negative then "-" else ""
  if x.isNaN then "NaN"
  else if x.isInfinite then sign ++ "Inf"
  else if x.isZero then "0.0"
  else
    let (ds, e) := x.extendedDigits precision
    let body :=
      if e < -4 || e ≥ precision then
        let eds := Nat.toDigits 10 e.natAbs
        ds.take 1 ++ '.' :: fractionDigits (ds.drop 1) ++
          'e' :: (if e < 0 then '-' else '+') :: (List.replicate (2 - eds.length) '0' ++ eds)
      else if 0 ≤ e then
        ds.take (e + 1).toNat ++ '.' :: fractionDigits (ds.drop (e + 1).toNat)
      else '0' :: '.' :: fractionDigits (List.replicate (-e - 1).toNat '0' ++ ds)
    sign ++ String.ofList body

end Binary64

end TicketCheckout.Number
