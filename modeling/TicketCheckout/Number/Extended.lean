import TicketCheckout.Number.Binary64

/-!
# Extended-precision digits

Binary floating point with 64-bit significands and an unbounded exponent, the precision of the
x87 extended format: every operation gives its exact result rounded to the nearest value whose
significand has 64 bits, ties to the even one. A value (`Extended`) is a nonnegative rational
`num / den` with a positive denominator; the results of operations are always `m × 2 ^ e` with
`m ≤ 2 ^ 64`.

`Binary64.extendedDigits` gives the significant digits a text writer working in this precision
produces for a positive finite binary64 value. It scales the value into `[1, 10)`: it divides by
a scale grown by `1e100`, `1e10` and `10` while the value stays at least the next scale, then
multiplies by `1e8` while the value is below `1e-8` and by `10` while it is below `1`. It adds
half a unit of the last digit (`halfUnit`, computed in binary64), takes a tenth again if that
reached `10`, and then peels the digits off: each is the integer part, and the rest times ten is
the value for the next. Every step rounds, so the digits can differ in the last place from the
exact value rounded: `396838360691152.5` gives `396838360691152` where an exact tie would go
up, and `1.226857469049525e203` gives `122685746904952` where its exact value, a little above
the tie, gives `...953`.
-/

namespace TicketCheckout.Number

/-- A nonnegative rational `num / den`, `den` positive, as a value of extended precision. -/
structure Extended where
  num : Nat
  den : Nat

namespace Extended

/-- The exponent `e` with `2 ^ 63 ≤ num / den / 2 ^ e < 2 ^ 64`, for `num` and `den`
positive. -/
def topExponent (num den : Nat) : Int :=
  let e0 : Int := (Nat.log2 num : Int) - (Nat.log2 den : Int) - 63
  if Binary64.scaledFloor num den e0 ≥ Nat.pow 2 64 then e0 + 1
  else if Binary64.scaledFloor num den e0 < Nat.pow 2 63 then e0 - 1
  else e0

/-- The value with a 64-bit significand nearest to `num / den`, ties to the even
significand. -/
def round (num den : Nat) : Extended :=
  if num == 0 || den == 0 then ⟨0, 1⟩ else
  let e := topExponent num den
  if 0 ≤ e then ⟨Binary64.roundHalfEven num (den * Nat.pow 2 e.toNat) * Nat.pow 2 e.toNat, 1⟩
  else ⟨Binary64.roundHalfEven (num * Nat.pow 2 (-e).toNat) den, Nat.pow 2 (-e).toNat⟩

/-- The exact value of a binary64 value, its sign dropped. -/
def ofBinary64 (x : Binary64) : Extended :=
  let r := x.toRatio
  ⟨r.num, r.den⟩

/-- One. -/
def one : Extended := ⟨1, 1⟩

/-- Ten. -/
def ten : Extended := ⟨10, 1⟩

/-- The rounded product. -/
def mul (a b : Extended) : Extended := round (a.num * b.num) (a.den * b.den)

/-- The rounded quotient. -/
def div (a b : Extended) : Extended := round (a.num * b.den) (a.den * b.num)

/-- The rounded sum. -/
def add (a b : Extended) : Extended := round (a.num * b.den + b.num * a.den) (a.den * b.den)

/-- The rounded difference, for `b ≤ a`. -/
def sub (a b : Extended) : Extended := round (a.num * b.den - b.num * a.den) (a.den * b.den)

/-- Whether `a < b`. -/
def lt (a b : Extended) : Bool := a.num * b.den < b.num * a.den

/-- The integer part. -/
def floor (a : Extended) : Nat := a.num / a.den

/-- Grows `scale` by `step`, counting `stepExp` to the exponent each time, while `x` is at least
`step × scale` and the exponent is at most 350; `fuel` bounds the steps. -/
def growScale (x step : Extended) (stepExp : Nat) : Nat → Extended × Int → Extended × Int
  | 0, acc => acc
  | fuel + 1, (scale, exp) =>
    if !x.lt (step.mul scale) && exp ≤ 350 then
      growScale x step stepExp fuel (scale.mul step, exp + stepExp)
    else (scale, exp)

/-- Multiplies `x` by `step`, counting `stepExp` off the exponent each time, while it is below
`bound`; `fuel` bounds the steps. -/
def growValue (bound step : Extended) (stepExp : Nat) : Nat → Extended × Int → Extended × Int
  | 0, acc => acc
  | fuel + 1, (x, exp) =>
    if x.lt bound then growValue bound step stepExp fuel (x.mul step, exp - stepExp)
    else (x, exp)

/-- The first `n` digits of a value below ten: each is the integer part, and the rest times ten,
rounded, gives the next. -/
def peel : Nat → Extended → List Char
  | 0, _ => []
  | n + 1, v =>
    let d := v.floor
    Char.ofNat (0x30 + d) :: peel n ((v.sub ⟨d, 1⟩).mul ten)

end Extended

namespace Binary64

/-- The rounded product of two binary64 values. -/
def mulRound (a b : Binary64) : Binary64 :=
  let p := a.toRatio
  let q := b.toRatio
  ofRatio ⟨p.negative != q.negative, p.num * q.num, p.den * q.den⟩

/-- Half a unit of the last of `precision` significant digits, as the writer computes it in
binary64: `5 × 10 ^ -(k + 1)` for `k` the remainder of `precision - 1` by ten, times `1e-10`
once for each further ten digits, every product rounded. -/
def halfUnit (precision : Nat) : Binary64 :=
  let k := precision - 1
  (List.replicate (k / 10) ()).foldl (fun r _ => mulRound r (ofDecimal false 1 (-10)))
    (ofDecimal false 5 (-((k % 10 : Nat) : Int) - 1))

/-- A positive finite value scaled into `[1, 10)` in extended precision, with the power of ten
of its first digit; see the module comment. -/
def extendedScaled (x : Binary64) : Extended × Int :=
  let v := Extended.ofBinary64 x
  let big (k : Int) := Extended.ofBinary64 (ofDecimal false 1 k)
  let (scale, exp) := Extended.growScale v (big 100) 100 8 (Extended.one, 0)
  let (scale, exp) := Extended.growScale v (big 10) 10 40 (scale, exp)
  let (scale, exp) := Extended.growScale v Extended.ten 1 20 (scale, exp)
  let (v, exp) := Extended.growValue (big (-8)) (big 8) 8 50 (v.div scale, exp)
  Extended.growValue Extended.one Extended.ten 1 20 (v, exp)

/-- The `precision` significant digits of a positive finite value written in extended precision,
with the power of ten of the first; see the module comment. -/
def extendedDigits (x : Binary64) (precision : Nat) : List Char × Int :=
  let (v, exp) := x.extendedScaled
  let v := v.add (Extended.ofBinary64 (halfUnit precision))
  let (v, exp) :=
    if v.lt Extended.ten then (v, exp)
    else (v.mul (Extended.ofBinary64 (ofDecimal false 1 (-1))), exp + 1)
  (Extended.peel precision v, exp)

example : (Binary64.ofDecimal false 3968383606911525 (-1)).extendedDigits 15 =
    ("396838360691152".toList, 14) := by decide +kernel
example : (Binary64.ofDecimal false 1226857469049525 188).extendedDigits 15 =
    ("122685746904952".toList, 203) := by decide +kernel
example : (Binary64.ofDecimal false 1 (-1)).extendedDigits 15 =
    ("100000000000000".toList, -1) := by decide +kernel

end Binary64

end TicketCheckout.Number
