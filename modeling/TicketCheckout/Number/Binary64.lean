/-!
# Binary64 values

A double-precision binary floating-point value, kept as its 64 bits (sign, 11 exponent bits, 52
fraction bits). A finite value is `± significand × 2 ^ exponent`. The module gives the nearest
value to a rational (ties to the even significand, with subnormals and overflow to infinity),
the exact comparison of a finite value with a rational, and the digits of the shortest decimal
that reads back to the same value.
-/

namespace TicketCheckout.Number

/-- A double-precision value by its bits. -/
structure Binary64 where
  bits : UInt64
  deriving BEq, DecidableEq, Inhabited

/-- A nonnegative rational `num / den` with a sign; `den` is positive in every use. -/
structure Ratio where
  negative : Bool
  num : Nat
  den : Nat
  deriving Inhabited

/-- Compares `a / b` with `c / d` for positive denominators. -/
def compareFractions (a b c d : Nat) : Ordering := compare (a * d) (c * b)

/-- Compares two signed rationals. -/
def Ratio.compare (p q : Ratio) : Ordering :=
  let pz := p.num == 0
  let qz := q.num == 0
  match pz, qz with
  | true, true => .eq
  | true, false => if q.negative then .gt else .lt
  | false, true => if p.negative then .lt else .gt
  | false, false =>
    match p.negative, q.negative with
    | false, false => compareFractions p.num p.den q.num q.den
    | true, true => compareFractions q.num q.den p.num p.den
    | false, true => .gt
    | true, false => .lt

/-- The exact difference `p - q` of two rationals. -/
def Ratio.sub (p q : Ratio) : Ratio :=
  let a : Int := (if p.negative then -(p.num : Int) else p.num) * q.den
  let b : Int := (if q.negative then -(q.num : Int) else q.num) * p.den
  let d := a - b
  ⟨d < 0, d.natAbs, p.den * q.den⟩

namespace Binary64

/-- Whether the sign bit is set. -/
def negative (x : Binary64) : Bool := x.bits >>> 63 == 1

/-- The stored exponent field. -/
def biased (x : Binary64) : Nat := ((x.bits >>> 52) &&& 0x7FF).toNat

/-- The stored fraction field. -/
def fraction (x : Binary64) : Nat := (x.bits &&& 0xFFFFFFFFFFFFF).toNat

/-- Infinite or not-a-number. -/
def isFinite (x : Binary64) : Bool := x.biased != 0x7FF

/-- Not a number. -/
def isNaN (x : Binary64) : Bool := x.biased == 0x7FF && x.fraction != 0

/-- An infinity of either sign. -/
def isInfinite (x : Binary64) : Bool := x.biased == 0x7FF && x.fraction == 0

/-- The integer significand of a finite value. -/
def significand (x : Binary64) : Nat :=
  if x.biased == 0 then x.fraction else x.fraction + Nat.pow 2 52

/-- The power of two that scales the significand of a finite value. -/
def exponent (x : Binary64) : Int :=
  (if x.biased == 0 then (1 : Int) else (x.biased : Int)) - 1075

/-- A zero of either sign. -/
def isZero (x : Binary64) : Bool := x.biased == 0 && x.fraction == 0

/-- The value with the given fields. -/
def ofFields (negative : Bool) (biased fraction : Nat) : Binary64 :=
  ⟨((if negative then 1 else 0 : UInt64) <<< 63) ||| (biased.toUInt64 <<< 52) |||
    fraction.toUInt64⟩

/-- An infinity. -/
def infinity (negative : Bool) : Binary64 := ofFields negative 0x7FF 0

/-- The quiet not-a-number written by readers. -/
def nan : Binary64 := ofFields false 0x7FF (Nat.pow 2 51)

/-- A zero. -/
def zero (negative : Bool) : Binary64 := ofFields negative 0 0

/-- The exact value of a finite value as a rational. -/
def toRatio (x : Binary64) : Ratio :=
  let e := x.exponent
  if 0 ≤ e then ⟨x.negative, x.significand * Nat.pow 2 e.toNat, 1⟩
  else ⟨x.negative, x.significand, Nat.pow 2 (-e).toNat⟩

/-- `q` divided by `d`, rounded to the nearest integer, ties to even. -/
def roundHalfEven (q d : Nat) : Nat :=
  let n := q / d
  let r := q % d
  if 2 * r > d then n + 1 else if 2 * r < d then n else if n % 2 == 1 then n + 1 else n

/-- The integer part of `num / den / 2 ^ e` for an integer `e`. -/
def scaledFloor (num den : Nat) (e : Int) : Nat :=
  if 0 ≤ e then num / (den * Nat.pow 2 e.toNat) else num * Nat.pow 2 (-e).toNat / den

/-- The exponent `e` with `2 ^ 52 ≤ num / den / 2 ^ e < 2 ^ 53`, for `num` and `den`
positive. -/
def normalExponent (num den : Nat) : Int :=
  let e0 : Int := (Nat.log2 num : Int) - (Nat.log2 den : Int) - 52
  if scaledFloor num den e0 ≥ Nat.pow 2 53 then e0 + 1
  else if scaledFloor num den e0 < Nat.pow 2 52 then e0 - 1
  else e0

/-- The nearest value to `± num / den`, ties to the even significand; too large a magnitude
gives an infinity. -/
def ofRatio (q : Ratio) : Binary64 :=
  if q.num == 0 || q.den == 0 then zero q.negative else
  let e := max (normalExponent q.num q.den) (-1074)
  let m :=
    if 0 ≤ e then roundHalfEven q.num (q.den * Nat.pow 2 e.toNat)
    else roundHalfEven (q.num * Nat.pow 2 (-e).toNat) q.den
  let (m, e) := if m == Nat.pow 2 53 then (Nat.pow 2 52, e + 1) else (m, e)
  if e > 971 then infinity q.negative
  else if m < Nat.pow 2 52 then ofFields q.negative 0 m
  else ofFields q.negative (e + 1075).toNat (m - Nat.pow 2 52)

/-- The nearest value to an integer. -/
def ofInt (n : Int) : Binary64 := ofRatio ⟨n < 0, n.natAbs, 1⟩

/-- The nearest value to `± digits × 10 ^ exp`; exponents far outside the range give zero or
an infinity without computing the power. -/
def ofDecimal (negative : Bool) (digits : Nat) (exp : Int) : Binary64 :=
  if digits == 0 then zero negative
  else if exp > 400 then infinity negative
  else if exp + ((Nat.toDigits 10 digits).length : Int) < -400 then zero negative
  else if 0 ≤ exp then ofRatio ⟨negative, digits * Nat.pow 10 exp.toNat, 1⟩
  else ofRatio ⟨negative, digits, Nat.pow 10 (-exp).toNat⟩

/-- The integer part, toward zero, of a finite value. -/
def truncate (x : Binary64) : Int :=
  let r := x.toRatio
  let n := (r.num / r.den : Nat)
  if r.negative then -(n : Int) else n

/-- Whether a finite value is a whole number. -/
def isIntegral (x : Binary64) : Bool :=
  let r := x.toRatio
  r.num % r.den == 0

/-! ## Shortest decimal digits -/

/-- The decimal exponent `k` with `10 ^ k ≤ num / den < 10 ^ (k + 1)`, for positive
`num` and `den`. -/
def decimalExponent (num den : Nat) : Int :=
  -- an estimate from the binary lengths, corrected by at most a few steps
  let guess : Int := ((((Nat.log2 num : Int) - (Nat.log2 den : Int)) * 30103) / 100000)
  let below (k : Int) : Bool :=
    -- whether 10 ^ k ≤ num / den
    if 0 ≤ k then Nat.pow 10 k.toNat * den ≤ num else den ≤ num * Nat.pow 10 (-k).toNat
  let step (k : Int) : Int := if below k then (if below (k + 1) then k + 1 else k) else k - 1
  step (step (step (step guess)))

/-- The digits of the shortest decimal that reads back to a finite nonzero value, with the
power of ten of its last digit: the value reads back from `digits × 10 ^ exp`. Among the
shortest such decimals the one nearest to the value is taken, a tie going to the even
last digit. -/
def shortestDigits (x : Binary64) : Nat × Int :=
  let m := x.significand
  let e := x.exponent
  -- the value is 4m, the ends of its rounding interval 4m + 2 and 4m - 2 (or 4m - 1 at the
  -- bottom of a binade), in units of 2 ^ (e - 2)
  let lowGap : Nat := if m == Nat.pow 2 52 && x.biased > 1 then 1 else 2
  let inclusive := m % 2 == 0
  -- rationals in units of 2 ^ (e - 2)
  let unitNum : Nat := if 2 ≤ e then Nat.pow 2 (e - 2).toNat else 1
  let unitDen : Nat := if 2 ≤ e then 1 else Nat.pow 2 (2 - e).toNat
  let v := (4 * m * unitNum, unitDen)
  let hi := ((4 * m + 2) * unitNum, unitDen)
  let lo := ((4 * m - lowGap) * unitNum, unitDen)
  let k := decimalExponent v.1 v.2
  let within (d : Nat) (p : Int) : Bool :=
    -- whether d × 10 ^ p lies in the rounding interval
    let (dn, dd) := if 0 ≤ p then (d * Nat.pow 10 p.toNat, 1) else (d, Nat.pow 10 (-p).toNat)
    let cLo := compareFractions dn dd lo.1 lo.2
    let cHi := compareFractions dn dd hi.1 hi.2
    (cLo == .gt || (inclusive && cLo == .eq)) && (cHi == .lt || (inclusive && cHi == .eq))
  let rec search : Nat → Nat → Nat × Int
    | 0, _ => (0, 0)
    | fuel + 1, n =>
      let p : Int := k - n + 1
      -- the grid points of step 10 ^ p just below and above the value
      let below : Nat :=
        if 0 ≤ p then v.1 / (v.2 * Nat.pow 10 p.toNat) else v.1 * Nat.pow 10 (-p).toNat / v.2
      let above := below + 1
      let okBelow := below != 0 && within below p
      let okAbove := within above p
      if okBelow && okAbove then
        -- the nearer one; distances compared in units of 10 ^ p
        let c := compareFractions (2 * v.1 * (if 0 ≤ p then 1 else Nat.pow 10 (-p).toNat))
          (v.2 * (if 0 ≤ p then Nat.pow 10 p.toNat else 1)) (2 * below + 1) 1
        if c == .lt then (below, p) else if c == .gt then (above, p)
        else if below % 2 == 0 then (below, p) else (above, p)
      else if okBelow then (below, p)
      else if okAbove then (above, p)
      else search fuel (n + 1)
  let (d, p) := search 17 1
  -- strip trailing zeros
  let rec strip : Nat → Nat → Int → Nat × Int
    | 0, d, p => (d, p)
    | fuel + 1, d, p => if d != 0 && d % 10 == 0 then strip fuel (d / 10) (p + 1) else (d, p)
  strip 20 d p

/-! ## Fixed places -/

/-- The magnitude of a finite value times `10 ^ places`, rounded to the nearest integer, ties
to even. -/
def scaledRound (x : Binary64) (places : Nat) : Nat :=
  let r := x.toRatio
  roundHalfEven (r.num * Nat.pow 10 places) r.den

end Binary64

end TicketCheckout.Number
