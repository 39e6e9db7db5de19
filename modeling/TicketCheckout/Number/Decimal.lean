/-!
# Decimal arithmetic

Decimal numbers as the service computes money (the General Decimal Arithmetic specification):
a finite value is `± coeff × 10 ^ exp`, kept with its exponent (so `2.50` and `2.5` differ),
besides the infinities and the not-a-number values. An operation that has no sensible result
signals `Fault.invalidOperation`.

Sums and products are exact and then fitted to the context (`fit`): rounded to
`Context.precision` significant digits, ties to the even digit. A result whose adjusted exponent
(that of its leading digit) exceeds `maxExponent` overflows. A result below `minExponent` is
subnormal and keeps fewer digits: its exponent is at least `Context.tiny`
(`minExponent - precision + 1`), rounding away digits below it, down to zero. A zero keeps its
exponent clamped to `tiny .. maxExponent`.

A sum never computes powers of ten far beyond the operands: when the operand with the smaller
exponent lies entirely below the last digit that can matter for the rounded sum, it is replaced
by a single unit just there, which changes the exact sum but not its rounding; and a zero
operand only pads the other to at most `precision + 1` more digits. Quantizing to a fixed
exponent rounds the same way; it fails when the exponent is out of range, or the result would
have its leading digit above `maxExponent` or need more digits than the precision allows.

Main statements: `quantize_exp` (a quantized value has the requested exponent) and
`add_finite_exact` (a sum short enough for the precision is the exact sum).
-/

namespace TicketCheckout.Number

/-- A decimal number with its exponent, or an infinity, or a not-a-number value. -/
inductive Decimal where
  | finite (negative : Bool) (coeff : Nat) (exp : Int)
  | infinite (negative : Bool)
  | nan (negative : Bool) (signaling : Bool) (payload : Nat)
  deriving BEq, DecidableEq, Inhabited, Repr

/-- Why a decimal operation has no result. -/
inductive Fault where
  /-- An operation without a defined result, or a quantize that needs too many digits. -/
  | invalidOperation
  /-- A result beyond the largest exponent. -/
  | overflow
  /-- Conversion of a not-a-number value to an integer. -/
  | notANumber
  /-- Conversion of an infinity to an integer. -/
  | infiniteValue
  deriving BEq, DecidableEq, Repr

/-- The arithmetic's settings: 28 significant digits, adjusted exponents from `-999999` to
`999999`. -/
structure Context where
  precision : Nat := 28
  maxExponent : Int := 999999
  minExponent : Int := -999999

namespace Context

/-- The least exponent of a result, that of a subnormal one. -/
def tiny (ctx : Context) : Int := ctx.minExponent - ctx.precision + 1

/-- The greatest exponent of a result with all the precision's digits. -/
def top (ctx : Context) : Int := ctx.maxExponent - ctx.precision + 1

end Context

namespace Decimal

/-- The decimal digits of a natural number, at least one. -/
def digitCount (n : Nat) : Nat := (Nat.toDigits 10 n).length

/-- An integer as a decimal with exponent zero. -/
def ofInt (n : Int) : Decimal := .finite (n < 0) n.natAbs 0

/-- The value zero with exponent zero. -/
def zero : Decimal := .finite false 0 0

/-- `q / d` rounded to the nearest integer, ties to the even integer. -/
def divRoundHalfEven (q d : Nat) : Nat :=
  let n := q / d
  let r := q % d
  if 2 * r > d then n + 1 else if 2 * r < d then n else if n % 2 == 1 then n + 1 else n

/-- The coefficient of `c × 10 ^ e` rewritten with a larger exponent `target`, rounded half to
even. A value below a tenth of a unit at the target rounds to zero, which is found without the
power. -/
def roundAt (c : Nat) (e target : Int) : Nat :=
  if (digitCount c : Int) + e - target < 0 then 0
  else divRoundHalfEven c (Nat.pow 10 (target - e).toNat)

/-- Fits an exact finite result `± coeff × 10 ^ exp` into the context; see the module
comment. -/
def fit (ctx : Context) (negative : Bool) (coeff : Nat) (exp : Int) : Except Fault Decimal :=
  if coeff == 0 then .ok (.finite negative 0 (min (max exp ctx.tiny) ctx.maxExponent))
  else
    let least := (digitCount coeff : Int) + exp - ctx.precision
    if least > ctx.top then .error .overflow
    else
      let least := max least ctx.tiny
      if exp < least then
        let c := roundAt coeff exp least
        -- a carry into a new digit drops one more (the dropped digit is then zero)
        let (c, e) := if digitCount c > ctx.precision then (c / 10, least + 1) else (c, least)
        if e > ctx.top then .error .overflow else .ok (.finite negative c e)
      else .ok (.finite negative coeff exp)

/-- The not-a-number result of an operation with a not-a-number operand: a signaling one is an
invalid operation, a quiet one is passed on (the first operand's if both are). -/
def propagateNaN : Decimal → Decimal → Option (Except Fault Decimal)
  | .nan _ true _, _ => some (.error .invalidOperation)
  | _, .nan _ true _ => some (.error .invalidOperation)
  | .nan s false p, _ => some (.ok (.nan s false p))
  | _, .nan s false p => some (.ok (.nan s false p))
  | _, _ => none

/-- The signed integer `± c`. -/
def signed (negative : Bool) (c : Nat) : Int := if negative then -(c : Int) else c

/-- The smaller-exponent operand of a sum as it enters the sum: unchanged, or a single unit just
below the last digit of `big` that can matter when it lies entirely below that unit. -/
def shrinkOperand (ctx : Context) (big small : Nat × Int) : Nat × Int :=
  let unit := big.2 + min (-1) ((digitCount big.1 : Int) - ctx.precision - 2)
  if (digitCount small.1 : Int) + small.2 - 1 < unit then (1, unit) else small

/-- The sum of two nonzero finite decimals, `big` having the larger exponent; see the module
comment. -/
def addNonzero (ctx : Context) (sb : Bool) (big : Nat × Int) (ss : Bool) (small : Nat × Int) :
    Except Fault Decimal :=
  let (cs, es) := shrinkOperand ctx big small
  let total := signed sb (big.1 * Nat.pow 10 (big.2 - es).toNat) + signed ss cs
  if total == 0 then fit ctx false 0 small.2 else fit ctx (total < 0) total.natAbs es

/-- The sum of two decimals, fitted to the context. -/
def add (ctx : Context) (x y : Decimal) : Except Fault Decimal :=
  match propagateNaN x y with
  | some r => r
  | none =>
    match x, y with
    | .infinite a, .infinite b => if a == b then .ok (.infinite a) else .error .invalidOperation
    | .infinite a, _ => .ok (.infinite a)
    | _, .infinite b => .ok (.infinite b)
    | .finite sx cx ex, .finite sy cy ey =>
      if cx == 0 && cy == 0 then fit ctx (sx && sy) 0 (min ex ey)
      else if cx == 0 then
        let e := max (min ex ey) (ey - ctx.precision - 1)
        fit ctx sy (cy * Nat.pow 10 (ey - e).toNat) e
      else if cy == 0 then
        let e := max (min ex ey) (ex - ctx.precision - 1)
        fit ctx sx (cx * Nat.pow 10 (ex - e).toNat) e
      else if ey ≤ ex then addNonzero ctx sx (cx, ex) sy (cy, ey)
      else addNonzero ctx sy (cy, ey) sx (cx, ex)
    | _, _ => .error .invalidOperation

/-- The product of two decimals, fitted to the context. -/
def mul (ctx : Context) (x y : Decimal) : Except Fault Decimal :=
  match propagateNaN x y with
  | some r => r
  | none =>
    match x, y with
    | .infinite a, .infinite b => .ok (.infinite (a != b))
    | .infinite a, .finite b c _ =>
      if c == 0 then .error .invalidOperation else .ok (.infinite (a != b))
    | .finite a c _, .infinite b =>
      if c == 0 then .error .invalidOperation else .ok (.infinite (a != b))
    | .finite sx cx ex, .finite sy cy ey => fit ctx (sx != sy) (cx * cy) (ex + ey)
    | _, _ => .error .invalidOperation

/-- The coefficient of `c × 10 ^ e` rewritten with exponent `exp`, rounded half to even. -/
def rescaledCoeff (c : Nat) (e exp : Int) : Nat :=
  if exp ≤ e then c * Nat.pow 10 (e - exp).toNat else roundAt c e exp

/-- The value with exponent `exp`, rounded half to even; see the module comment for when it
fails. -/
def quantize (ctx : Context) (x : Decimal) (exp : Int) : Except Fault Decimal :=
  match x with
  | .nan _ true _ => .error .invalidOperation
  | .nan s false p => .ok (.nan s false p)
  | .infinite _ => .error .invalidOperation
  | .finite s c e =>
    if exp < ctx.tiny || exp > ctx.maxExponent then .error .invalidOperation
    else if c == 0 then fit ctx s 0 exp
    else
      let adjusted := (digitCount c : Int) + e - 1
      if adjusted > ctx.maxExponent || adjusted - exp + 1 > ctx.precision then
        .error .invalidOperation
      else
        let c' := rescaledCoeff c e exp
        if (digitCount c' : Int) + exp - 1 > ctx.maxExponent || digitCount c' > ctx.precision then
          .error .invalidOperation
        else fit ctx s c' exp

/-- Rounds to a whole number (exponent zero or above), half to even. -/
def toIntegral (x : Decimal) : Except Fault Decimal :=
  match x with
  | .nan _ true _ => .error .invalidOperation
  | .finite s c e => if 0 ≤ e then .ok x else .ok (.finite s (roundAt c e 0) 0)
  | _ => .ok x

/-- The integer part, toward zero; a not-a-number value or an infinity has none. -/
def toInt (x : Decimal) : Except Fault Int :=
  match x with
  | .finite s c e =>
    if 0 ≤ e then .ok (signed s (c * Nat.pow 10 e.toNat))
    else .ok (signed s (c / Nat.pow 10 (-e).toNat))
  | .infinite _ => .error .infiniteValue
  | .nan .. => .error .notANumber

/-- Finite values, as opposed to infinities and not-a-number values. -/
def isFinite : Decimal → Bool
  | .finite .. => true
  | _ => false

theorem digitCount_pos (c : Nat) : 1 ≤ digitCount c := by
  unfold digitCount
  exact List.length_pos_iff.mpr (Nat.toDigits_ne_nil)

/-- Fitting leaves a result alone when it has at most the precision's digits and its exponent
lies between `tiny` and `maxExponent - digits + 1`. -/
theorem fit_exact (ctx : Context) (s : Bool) (c : Nat) (e : Int)
    (hdigits : digitCount c ≤ ctx.precision) (hlow : ctx.tiny ≤ e)
    (hhigh : e + (digitCount c : Int) - 1 ≤ ctx.maxExponent) :
    fit ctx s c e = .ok (.finite s c e) := by
  have hd := digitCount_pos c
  unfold fit
  by_cases hc : c = 0
  · subst hc
    have h1 : min (max e ctx.tiny) ctx.maxExponent = e := by omega
    simp [h1]
  · have hc' : (c == 0) = false := by simpa using hc
    have hnot : ¬ ((digitCount c : Int) + e - ctx.precision > ctx.top) := by
      unfold Context.top
      omega
    have hnot2 : ¬ (e < max ((digitCount c : Int) + e - ctx.precision) ctx.tiny) := by omega
    simp only [hc', Bool.false_eq_true, if_false, hnot, hnot2]

theorem fit_zero (ctx : Context) (s : Bool) (e : Int) (hlow : ctx.tiny ≤ e)
    (hhigh : e ≤ ctx.maxExponent) : fit ctx s 0 e = .ok (.finite s 0 e) := by
  have h1 : min (max e ctx.tiny) ctx.maxExponent = e := by omega
  simp [fit, h1]

theorem quantize_exp (ctx : Context) (s : Bool) (c : Nat) (e exp : Int) (d : Decimal)
    (h : quantize ctx (.finite s c e) exp = .ok d) : ∃ c', d = .finite s c' exp := by
  simp only [quantize] at h
  split at h
  · cases h
  · rename_i hr
    simp only [Bool.or_eq_true, decide_eq_true_eq] at hr
    split at h
    · rw [fit_zero ctx s exp (by omega) (by omega)] at h
      cases h
      exact ⟨0, rfl⟩
    · split at h
      · cases h
      · split at h
        · cases h
        · rename_i hbad
          simp only [Bool.or_eq_true, decide_eq_true_eq] at hbad
          rw [fit_exact ctx s _ exp (by omega) (by omega) (by omega)] at h
          cases h
          exact ⟨_, rfl⟩

theorem add_finite_exact (ctx : Context) (c1 c2 : Nat) (e : Int) (h1 : c1 ≠ 0) (h2 : c2 ≠ 0)
    (hsmall : digitCount (c1 + c2) ≤ ctx.precision) (hlow : ctx.tiny ≤ e)
    (hrange : e + (digitCount (c1 + c2) : Int) - 1 ≤ ctx.maxExponent) :
    add ctx (.finite false c1 e) (.finite false c2 e) = .ok (.finite false (c1 + c2) e) := by
  have hd2 := digitCount_pos c2
  have hk : ¬ ((digitCount c2 : Int) + e - 1 <
      e + min (-1) ((digitCount c1 : Int) - ctx.precision - 2)) := by omega
  have hz1 : (c1 == 0) = false := by simpa using h1
  have hz2 : (c2 == 0) = false := by simpa using h2
  have hsum : ((c1 : Int) + (c2 : Int)).natAbs = c1 + c2 := by omega
  have hne : ((c1 : Int) + (c2 : Int) == 0) = false := by simp; omega
  have hneg : ((c1 : Int) + (c2 : Int) < 0) = False := by simp; omega
  simp only [add, propagateNaN, hz1, hz2, Bool.and_false, Bool.false_eq_true, if_false,
    Int.le_refl, if_true, addNonzero, shrinkOperand, hk, signed, Int.sub_self, Int.toNat_zero,
    Nat.pow_eq, Nat.pow_zero, Nat.mul_one, hne]
  rw [hsum, fit_exact ctx _ _ e hsmall hlow hrange]
  simp
  omega

end Decimal

end TicketCheckout.Number
