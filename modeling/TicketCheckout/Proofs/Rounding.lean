import TicketCheckout.Proofs.Pricing

/-!
# Pricing rounds half to even

Quantizing an amount to cents rounds it half to even (`quantize_rounds`), stated against
`RoundsHalfEven`: the nearest integer, the even one at a tie, which is one integer
(`RoundsHalfEven.unique`). Sums and products of amounts with exponents of at least `e` are exact
while they keep within 28 digits at `10 ^ e` (`add_grid`, `mul_grid`, `lineSum_grid`). Together:
with the prices and the fee per ticket at such exponents, and the amounts a unit below `10 ^ 26`,
the subtotal and the service fee are the exact amounts rounded half to even to cents and the
total is their exact sum (`Pricing.ofLines_rounds_half_even`).

Rounding to the nearest integer never passes an integer bound (`RoundsHalfEven.abs_le_of_abs_le`),
so a fee of any exponent, times a ticket count, quantizes to cents that stay within a bound the
exact product keeps (`mul_quantize_le`, through `fit_le_cents`). With prices in cents, the order
is then priced whatever the fee's exponent, while its amounts stay a cent below `10 ^ 26`
(`Pricing.ofLines_in_cents`).

Off the grid the law fails and nothing signals it: a price of 29 digits is rounded to 28 before
it is quantized, which can carry an amount just below a half cent up to it, and a total past
`10 ^ 26` is rounded to fewer decimals (`pricing_rounds_twice_at_a_half_cent`).
-/

namespace TicketCheckout.Number.Decimal

/-! ## Rounding half to even -/

/-- `n` is `x` rounded to the nearest integer, the even one at a tie. -/
structure RoundsHalfEven (x : ℚ) (n : Int) : Prop where
  near : |(n : ℚ) - x| ≤ 1 / 2
  tie : |(n : ℚ) - x| = 1 / 2 → Even n

/-- Rounding half to even has one result: two integers within a half of `x` are equal, or one
apart at a tie, where only one of them is even. -/
theorem RoundsHalfEven.unique {x : ℚ} {m n : Int} (hm : RoundsHalfEven x m)
    (hn : RoundsHalfEven x n) : m = n := by
  have htri : |(m : ℚ) - n| ≤ |(m : ℚ) - x| + |(n : ℚ) - x| := by
    calc |(m : ℚ) - n| = |((m : ℚ) - x) - ((n : ℚ) - x)| := by ring_nf
      _ ≤ |(m : ℚ) - x| + |(n : ℚ) - x| := abs_sub _ _
  have hle : ((|m - n| : Int) : ℚ) ≤ 1 := by
    push_cast
    linarith [hm.near, hn.near]
  rcases lt_or_eq_of_le (show |m - n| ≤ 1 by exact_mod_cast hle) with hlt | hone
  · rw [abs_lt] at hlt
    omega
  · -- one apart: both are at a tie, so both are even
    have hcast : |(m : ℚ) - n| = 1 := by exact_mod_cast hone
    obtain ⟨a, ha⟩ := hm.tie (by linarith [hm.near, hn.near])
    obtain ⟨b, hb⟩ := hn.tie (by linarith [hm.near, hn.near])
    rw [abs_eq (by norm_num)] at hone
    omega

theorem RoundsHalfEven.self (n : Int) : RoundsHalfEven n n :=
  ⟨by norm_num, fun h => absurd h (by norm_num)⟩

theorem RoundsHalfEven.neg {x : ℚ} {n : Int} (h : RoundsHalfEven x n) :
    RoundsHalfEven (-x) (-n) := by
  have hdist : |((-n : Int) : ℚ) - -x| = |(n : ℚ) - x| := by
    rw [← abs_neg]
    push_cast
    ring_nf
  exact ⟨hdist ▸ h.near, fun ht => (h.tie (hdist ▸ ht)).neg⟩

/-- Rounding `q / d` half to even, checked on integers. -/
theorem RoundsHalfEven.of_int {q n : Int} {d : Nat} (hd : 0 < d) (hnear : 2 * |n * d - q| ≤ d)
    (htie : 2 * |n * d - q| = d → Even n) : RoundsHalfEven ((q : ℚ) / d) n := by
  have hd' : (0 : ℚ) < d := by exact_mod_cast hd
  have hdist : |(n : ℚ) - q / d| = ((|n * d - q| : Int) : ℚ) / d := by
    rw [show (n : ℚ) - q / d = ((n * d - q : Int) : ℚ) / d by push_cast; field_simp, abs_div,
      abs_of_pos hd', Int.cast_abs]
  refine ⟨?_, fun h => htie ?_⟩
  · rw [hdist, div_le_iff₀ hd']
    have : (2 : ℚ) * ((|n * d - q| : Int) : ℚ) ≤ d := by exact_mod_cast hnear
    linarith
  · rw [hdist, div_eq_iff hd'.ne'] at h
    have : (2 : ℚ) * ((|n * d - q| : Int) : ℚ) = d := by linarith
    exact_mod_cast this

/-- Division rounded half to even rounds the quotient half to even. -/
theorem divRoundHalfEven_rounds (q d : Nat) (hd : 0 < d) :
    RoundsHalfEven ((q : ℚ) / d) (divRoundHalfEven q d) := by
  rw [← Int.cast_natCast q]
  -- the quotient `n` and the remainder `r`; the remainder decides the way
  unfold divRoundHalfEven
  dsimp only
  generalize hn : q / d = n
  generalize hr : q % d = r
  have hqd : (q : Int) = d * n + r := by
    rw [← hn, ← hr]
    exact_mod_cast (Nat.div_add_mod q d).symm
  have hrd : r < d := hr ▸ Nat.mod_lt q hd
  have hup : ((n + 1 : Nat) : Int) * d - q = d - r := by
    rw [hqd]
    push_cast
    ring
  have hdown : ((n : Nat) : Int) * d - q = -r := by
    rw [hqd]
    ring
  split_ifs with h₁ h₂ h₃
  · exact RoundsHalfEven.of_int hd (by rw [hup, abs_of_nonneg (by omega)]; omega)
      fun h => by rw [hup, abs_of_nonneg (by omega)] at h; omega
  · exact RoundsHalfEven.of_int hd (by rw [hdown, abs_of_nonpos (by omega)]; omega)
      fun h => by rw [hdown, abs_of_nonpos (by omega)] at h; omega
  · -- a tie: an odd quotient goes up to the even one
    refine RoundsHalfEven.of_int hd (by rw [hup, abs_of_nonneg (by omega)]; omega) fun _ => ?_
    rw [beq_iff_eq] at h₃
    exact (Int.even_coe_nat _).2 (Nat.even_iff.2 (by omega))
  · refine RoundsHalfEven.of_int hd (by rw [hdown, abs_of_nonpos (by omega)]; omega) fun _ => ?_
    rw [beq_iff_eq] at h₃
    exact (Int.even_coe_nat _).2 (Nat.even_iff.2 (by omega))

/-- Moving `c × 10 ^ e` to a larger exponent rounds it half to even; a value below a tenth of a
unit there goes to zero without dividing, which is the same rounding. -/
theorem roundAt_rounds (c : Nat) {e target : Int} (he : e < target) :
    RoundsHalfEven ((c : ℚ) * 10 ^ (e - target)) (roundAt c e target) := by
  unfold roundAt
  split
  · -- fewer digits than places to drop: the value is below a tenth
    rename_i hfew
    have hc : (c : ℚ) < 10 ^ digitCount c := by exact_mod_cast lt_pow_digitCount c
    have hsmall : (c : ℚ) * 10 ^ (e - target) < 1 / 10 := by
      calc (c : ℚ) * 10 ^ (e - target) < 10 ^ digitCount c * 10 ^ (e - target) :=
            mul_lt_mul_of_pos_right hc (zpow_pos (by norm_num) _)
        _ = 10 ^ ((digitCount c : Int) + e - target) := by
            rw [← zpow_natCast, ← zpow_add₀ (by norm_num)]
            ring_nf
        _ ≤ 10 ^ (-1 : Int) := zpow_le_zpow_right₀ (by norm_num) (by omega)
        _ = 1 / 10 := by norm_num
    have hnonneg : (0 : ℚ) ≤ (c : ℚ) * 10 ^ (e - target) := by positivity
    refine ⟨?_, fun _ => by simp⟩
    rw [Nat.cast_zero, Int.cast_zero, zero_sub, abs_neg, abs_of_nonneg hnonneg]
    linarith
  · have hpow : (c : ℚ) * 10 ^ (e - target) = (c : ℚ) / (Nat.pow 10 (target - e).toNat : Nat) := by
      rw [show e - target = -(((target - e).toNat : Nat) : Int) by omega, zpow_neg, zpow_natCast,
        Nat.pow_eq, Nat.cast_pow, Nat.cast_ofNat, div_eq_mul_inv]
    rw [hpow]
    exact divRoundHalfEven_rounds c _ (Nat.pow_pos (by norm_num))

theorem abs_value (s : Bool) (c : Nat) (e : Int) :
    |(Decimal.finite s c e).value| = (c : ℚ) * 10 ^ e := by
  rw [value, abs_mul, abs_of_pos (zpow_pos (by norm_num : (0 : ℚ) < 10) e)]
  cases s <;> simp [signed]

/-- Quantizing to cents rounds an amount half to even, while the amount stays a cent below
`10 ^ 26`: the rounded amount then has at most 28 digits. -/
theorem quantize_rounds (s : Bool) (c : Nat) (e : Int)
    (hbound : |(Decimal.finite s c e).value| + 1 / 100 ≤ 10 ^ 26) :
    ∃ c', quantize moneyContext (.finite s c e) (-2) = .ok (.finite s c' (-2)) ∧ c' < 10 ^ 28 ∧
      RoundsHalfEven (100 * (Decimal.finite s c e).value) (signed s c') := by
  rw [abs_value] at hbound
  have h100 : 100 * (Decimal.finite s c e).value = (signed s c : ℚ) * 10 ^ (e - -2) := by
    rw [value, show e - -2 = e + 2 by ring, zpow_add₀ (by norm_num)]
    norm_num
    ring
  -- the amount in cents, below `10 ^ 28`
  have hcents : (c : ℚ) * 10 ^ (e - -2) + 1 ≤ 10 ^ 28 := by
    rw [show e - -2 = e + 2 by ring, zpow_add₀ (by norm_num)]
    norm_num
    nlinarith
  by_cases he : -2 ≤ e
  · -- at most two decimals: quantizing only adds zeros
    have hk : (((e + 2).toNat : Nat) : Int) = e - -2 := by omega
    have hc : c * 10 ^ (e + 2).toNat < 10 ^ 28 := by
      have : ((c * 10 ^ (e + 2).toNat : Nat) : ℚ) < 10 ^ 28 := by
        push_cast
        rw [← zpow_natCast, hk]
        linarith
      exact_mod_cast this
    refine ⟨_, quantize_cents_of_exp s he hc, hc, ?_⟩
    convert RoundsHalfEven.self (signed s (c * 10 ^ (e + 2).toNat)) using 1
    rw [h100, signed_mul_nat]
    push_cast
    rw [← zpow_natCast, hk]
  · -- more decimals: the coefficient is rounded at cents
    have hround := roundAt_rounds c (show e < -2 by omega)
    have hc' : roundAt c e (-2) < 10 ^ 28 := by
      have : ((roundAt c e (-2) : Nat) : ℚ) < 10 ^ 28 := by
        have := (abs_le.1 hround.near).2
        push_cast at this ⊢
        linarith
      exact_mod_cast this
    have hdigits : digitCount c ≤ (26 - e).toNat := by
      refine Nat.toDigits_length 10 _ _ (by omega) ?_
      have : (c : ℚ) < 10 ^ (26 - e).toNat := by
        rw [← zpow_natCast, show (((26 - e).toNat : Nat) : Int) = 26 + -e by omega,
          zpow_add₀ (by norm_num), zpow_neg]
        rw [← div_eq_mul_inv, lt_div_iff₀ (zpow_pos (by norm_num) _)]
        norm_num
        linarith
      exact_mod_cast this
    have hd' : digitCount (roundAt c e (-2)) ≤ 28 := Nat.toDigits_length 10 _ 28 (by norm_num) hc'
    have hp : (moneyContext.precision : Int) = 28 := rfl
    have hprec : moneyContext.precision = 28 := rfl
    have hmax : moneyContext.maxExponent = 999999 := rfl
    simp only [quantize]
    rw [if_neg (by simp [moneyContext, Context.tiny])]
    by_cases hzero : c = 0
    · subst hzero
      simp only [beq_self_eq_true, if_true]
      refine ⟨0, fit_cents s (by norm_num), by norm_num, ?_⟩
      rw [h100, signed_zero]
      simpa using RoundsHalfEven.self 0
    · simp only [show (c == 0) = false by simpa using hzero, Bool.false_eq_true, if_false]
      rw [if_neg (by simp only [hmax, hp, Bool.or_eq_true, decide_eq_true_eq]; omega)]
      have hrescale : rescaledCoeff c e (-2) = roundAt c e (-2) := by
        simp only [rescaledCoeff, if_neg he]
      rw [hrescale, if_neg (by simp only [hprec, hmax, Bool.or_eq_true, decide_eq_true_eq]; omega)]
      refine ⟨_, fit_cents s hc', hc', ?_⟩
      rw [h100]
      cases s
      · simpa [signed] using hround
      · simpa [signed, neg_mul] using hround.neg

theorem RoundsHalfEven.abs_le_of_abs_le {x : ℚ} {n k : Int} (h : RoundsHalfEven x n)
    (hx : |x| ≤ k) : |n| ≤ k := by
  have hnear := abs_le.1 h.near
  have habs := abs_le.1 hx
  have hlt : ((|n| : Int) : ℚ) < k + 1 := by
    rw [Int.cast_abs, abs_lt]
    constructor <;> linarith
  exact Int.lt_add_one_iff.1 (by exact_mod_cast hlt)

/-! ## Exact arithmetic on a grid

An amount is on the grid of `10 ^ e` when its exponent is at least `e` and its size is below
`10 ^ (28 + e)`: written at exponent `e` it has at most 28 digits, so sums and products of such
amounts that stay below the bound are exact. A nonzero amount on the grid has an exponent below
`28 + e` (`exp_lt_of_abs`); a zero may have any exponent, which fitting brings into range. -/

theorem value_rescaled (s : Bool) (c : Nat) {e e' : Int} (h : e ≤ e') :
    (Decimal.finite s (c * 10 ^ (e' - e).toNat) e).value = (Decimal.finite s c e').value := by
  simp only [value, signed_mul_nat]
  push_cast
  rw [← zpow_natCast, mul_assoc, ← zpow_add₀ (by norm_num),
    show (((e' - e).toNat : Nat) : Int) + e = e' by omega]

/-- An integer count of units of `10 ^ e'` whose amount is below `10 ^ (28 + e)`, with `e ≤ e'`,
has at most 28 digits. -/
theorem natAbs_lt_of_abs {x : Int} {e e' : Int} (he : e ≤ e')
    (h : |(x : ℚ) * 10 ^ e'| < 10 ^ (28 + e)) : x.natAbs < 10 ^ 28 := by
  have hpos : (0 : ℚ) < 10 ^ e' := zpow_pos (by norm_num) e'
  have hmono : (10 : ℚ) ^ (28 + e) ≤ 10 ^ (28 : Int) * 10 ^ e' := by
    rw [← zpow_add₀ (by norm_num)]
    exact zpow_le_zpow_right₀ (by norm_num) (by omega)
  rw [abs_mul, abs_of_pos hpos] at h
  have hx : |(x : ℚ)| < 10 ^ (28 : Int) := lt_of_mul_lt_mul_right (h.trans_le hmono) hpos.le
  have : ((x.natAbs : Nat) : ℚ) < 10 ^ 28 := by
    rw [Nat.cast_natAbs, Int.cast_abs]
    simpa using hx
  exact_mod_cast this

theorem coeff_lt_of_abs {s : Bool} {c : Nat} {e e'' e' : Int} (he : e ≤ e'') (he' : e'' ≤ e')
    (h : |(Decimal.finite s c e').value| < 10 ^ (28 + e)) : c * 10 ^ (e' - e'').toNat < 10 ^ 28 := by
  rw [← value_rescaled s c he', value] at h
  have := natAbs_lt_of_abs he h
  rwa [natAbs_signed] at this

/-- A nonzero amount below `10 ^ (28 + e)` has an exponent below `28 + e`. -/
theorem exp_lt_of_abs {s : Bool} {c : Nat} {e e' : Int} (hc : c ≠ 0)
    (h : |(Decimal.finite s c e').value| < 10 ^ (28 + e)) : e' < 28 + e := by
  rw [abs_value] at h
  have hone : (1 : ℚ) ≤ c := by exact_mod_cast Nat.one_le_iff_ne_zero.mpr hc
  have hpow : (10 : ℚ) ^ e' < 10 ^ (28 + e) :=
    lt_of_le_of_lt (le_mul_of_one_le_left (zpow_pos (by norm_num) _).le hone) h
  exact (zpow_lt_zpow_iff_right₀ (by norm_num)).1 hpow

theorem fit_zero_clamp (s : Bool) (e : Int) :
    fit moneyContext s 0 e =
      .ok (.finite s 0 (min (max e moneyContext.tiny) moneyContext.maxExponent)) := by
  simp [fit]

theorem fit_rescaled_grid {e e' e₂ : Int} (he : moneyContext.tiny ≤ e) (h : e ≤ e' ∧ e' ≤ e₂)
    (h₂ : e₂ ≤ 28) {s : Bool} {c : Nat} (hy : |(Decimal.finite s c e₂).value| < 10 ^ (28 + e)) :
    fit moneyContext s (c * Nat.pow 10 (e₂ - e').toNat) e' =
        .ok (.finite s (c * 10 ^ (e₂ - e').toNat) e') ∧
      (Decimal.finite s (c * 10 ^ (e₂ - e').toNat) e').value = (Decimal.finite s c e₂).value :=
  ⟨fit_grid s (coeff_lt_of_abs h.1 h.2 hy) (by omega) (by omega), value_rescaled s c h.2⟩

/-- Two amounts on the grid, the first nonzero and the second at the lower exponent, add exactly
at that exponent while the sum stays below the grid's bound: the second is never replaced by a
unit, as it has a digit within 28 places of the first's leading one. -/
theorem addNonzero_grid {e : Int} (he : moneyContext.tiny ≤ e) {sb ss : Bool} {cb cs : Nat}
    {eb es : Int} (hcb : cb ≠ 0) (hes : e ≤ es ∧ es ≤ eb ∧ eb ≤ 28)
    (hb : |(Decimal.finite sb cb eb).value| < 10 ^ (28 + e))
    (hsum : |(Decimal.finite sb cb eb).value + (Decimal.finite ss cs es).value| < 10 ^ (28 + e)) :
    ∃ s c, addNonzero moneyContext sb (cb, eb) ss (cs, es) = .ok (.finite s c es) ∧
      (Decimal.finite s c es).value =
        (Decimal.finite sb cb eb).value + (Decimal.finite ss cs es).value := by
  have hp : (moneyContext.precision : Int) = 28 := rfl
  have hd := digitCount_pos cs
  have hcoeff := coeff_lt_of_abs hes.1 hes.2.1 hb
  -- the first operand has at most `28 - (eb - es)` digits
  have hk : (eb - es).toNat < 28 := by
    have : 10 ^ (eb - es).toNat < 10 ^ 28 :=
      lt_of_le_of_lt (Nat.le_mul_of_pos_left _ (Nat.pos_of_ne_zero hcb)) hcoeff
    exact (Nat.pow_lt_pow_iff_right (by norm_num)).mp this
  have hdb : digitCount cb ≤ 28 - (eb - es).toNat := by
    refine Nat.toDigits_length 10 _ _ (by omega) ?_
    have h28 : 10 ^ 28 = 10 ^ (28 - (eb - es).toNat) * 10 ^ (eb - es).toNat := by
      rw [← pow_add, Nat.sub_add_cancel hk.le]
    rw [h28] at hcoeff
    exact Nat.lt_of_mul_lt_mul_right hcoeff
  have hkeep : ¬ ((digitCount cs : Int) + es - 1 <
      eb + min (-1) ((digitCount cb : Int) - 28 - 2)) := by
    omega
  -- the sum, counted in units of `10 ^ es`
  have hvalue : (Decimal.finite sb cb eb).value + (Decimal.finite ss cs es).value =
      ((signed sb (cb * 10 ^ (eb - es).toNat) + signed ss cs : Int) : ℚ) * 10 ^ es := by
    rw [← value_rescaled sb cb hes.2.1, value, value]
    push_cast
    ring
  have htotal := natAbs_lt_of_abs hes.1 (hvalue ▸ hsum)
  simp only [addNonzero, shrinkOperand, hp, hkeep, if_false, Nat.pow_eq]
  split
  · rename_i hzero
    refine ⟨false, 0, fit_grid _ (by norm_num) (by omega) (by omega), ?_⟩
    rw [beq_iff_eq] at hzero
    rw [hvalue, hzero, value, signed_zero]
  · exact ⟨_, _, fit_grid _ htotal (by omega) (by omega), by rw [hvalue, value, signed_natAbs]⟩

section Grid

/-! The grid of `10 ^ e` for an `e` from the least exponent to zero. -/

variable {e : Int} (he : moneyContext.tiny ≤ e) (he0 : e ≤ 0)
include he he0

/-- Two amounts on the grid of `10 ^ e` add exactly when their sum stays below `10 ^ (28 + e)`,
and the sum is on the grid. -/
theorem add_grid {s₁ s₂ : Bool} {c₁ c₂ : Nat} {e₁ e₂ : Int} (h₁ : e ≤ e₁) (h₂ : e ≤ e₂)
    (hx : |(Decimal.finite s₁ c₁ e₁).value| < 10 ^ (28 + e))
    (hy : |(Decimal.finite s₂ c₂ e₂).value| < 10 ^ (28 + e))
    (hsum : |(Decimal.finite s₁ c₁ e₁).value + (Decimal.finite s₂ c₂ e₂).value| <
      10 ^ (28 + e)) :
    ∃ s c e', e ≤ e' ∧
      add moneyContext (.finite s₁ c₁ e₁) (.finite s₂ c₂ e₂) = .ok (.finite s c e') ∧
      (Decimal.finite s c e').value =
        (Decimal.finite s₁ c₁ e₁).value + (Decimal.finite s₂ c₂ e₂).value := by
  have hp : (moneyContext.precision : Int) = 28 := rfl
  have htiny : moneyContext.tiny = -1000026 := rfl
  have hmax : moneyContext.maxExponent = 999999 := rfl
  simp only [add, propagateNaN]
  by_cases hz₁ : c₁ = 0 <;> by_cases hz₂ : c₂ = 0
  · -- two zeros: a zero at the lower exponent, brought into range
    subst hz₁ hz₂
    refine ⟨s₁ && s₂, 0, min (max (min e₁ e₂) moneyContext.tiny) moneyContext.maxExponent,
      by rw [htiny, hmax]; omega, ?_, by simp [value, signed_zero]⟩
    simp only [beq_self_eq_true, Bool.and_self, if_true]
    exact fit_zero_clamp _ _
  · -- a zero and an amount: the amount, at most 29 places lower
    subst hz₁
    have hlt := exp_lt_of_abs hz₂ hy
    obtain ⟨hfit, hvalue⟩ := fit_rescaled_grid he
      (show e ≤ max (min e₁ e₂) (e₂ - 28 - 1) ∧ max (min e₁ e₂) (e₂ - 28 - 1) ≤ e₂ by omega)
      (by omega) hy
    refine ⟨s₂, c₂ * 10 ^ (e₂ - max (min e₁ e₂) (e₂ - 28 - 1)).toNat,
      max (min e₁ e₂) (e₂ - 28 - 1), by omega, ?_, by rw [hvalue]; simp [value, signed_zero]⟩
    simp only [beq_self_eq_true, show (c₂ == 0) = false by simpa using hz₂, Bool.and_false,
      Bool.false_eq_true, if_false, if_true, hp]
    exact hfit
  · subst hz₂
    have hlt := exp_lt_of_abs hz₁ hx
    obtain ⟨hfit, hvalue⟩ := fit_rescaled_grid he
      (show e ≤ max (min e₁ e₂) (e₁ - 28 - 1) ∧ max (min e₁ e₂) (e₁ - 28 - 1) ≤ e₁ by omega)
      (by omega) hx
    refine ⟨s₁, c₁ * 10 ^ (e₁ - max (min e₁ e₂) (e₁ - 28 - 1)).toNat,
      max (min e₁ e₂) (e₁ - 28 - 1), by omega, ?_, by rw [hvalue]; simp [value, signed_zero]⟩
    simp only [beq_self_eq_true, show (c₁ == 0) = false by simpa using hz₁, Bool.false_and,
      Bool.false_eq_true, if_false, if_true, hp]
    exact hfit
  · -- two amounts: the one at the lower exponent is written against the other
    have hlt₁ := exp_lt_of_abs hz₁ hx
    have hlt₂ := exp_lt_of_abs hz₂ hy
    simp only [show (c₁ == 0) = false by simpa using hz₁, show (c₂ == 0) = false by simpa using hz₂,
      Bool.false_and, Bool.false_eq_true, if_false]
    split
    · rename_i hle
      obtain ⟨s, c, hadd, hvalue⟩ := addNonzero_grid he hz₁ ⟨h₂, hle, by omega⟩ hx hsum
      exact ⟨s, c, e₂, h₂, hadd, hvalue⟩
    · rename_i hlt
      obtain ⟨s, c, hadd, hvalue⟩ := addNonzero_grid he hz₂ ⟨h₁, by omega, by omega⟩ hy
        (by rwa [add_comm])
      exact ⟨s, c, e₁, h₁, hadd, by rw [hvalue, add_comm]⟩

/-- A price on the grid of `10 ^ e` times a quantity is exact, on the grid, while the product
stays below `10 ^ (28 + e)`. -/
theorem mul_grid {s : Bool} {c : Nat} {e' : Int} (h : e ≤ e') (q : Int)
    (hbound : |(Decimal.finite s c e').value * q| < 10 ^ (28 + e)) :
    ∃ e'', e ≤ e'' ∧ mul moneyContext (.finite s c e') (ofInt q) =
        .ok (.finite (s != decide (q < 0)) (c * q.natAbs) e'') ∧
      (Decimal.finite (s != decide (q < 0)) (c * q.natAbs) e'').value =
        (Decimal.finite s c e').value * q := by
  have htiny : moneyContext.tiny = -1000026 := rfl
  have hmax : moneyContext.maxExponent = 999999 := rfl
  -- the product's value does not depend on the exponent it is written at when it is zero
  have hvalue : ∀ e'', (Decimal.finite (s != decide (q < 0)) (c * q.natAbs) e').value =
      (Decimal.finite s c e').value * q → (c * q.natAbs = 0 ∨ e'' = e') →
      (Decimal.finite (s != decide (q < 0)) (c * q.natAbs) e'').value =
        (Decimal.finite s c e').value * q := by
    rintro e'' hv (hzero | rfl)
    · rw [← hv]
      simp [value, hzero, signed_zero]
    · exact hv
  have hexact : (Decimal.finite (s != decide (q < 0)) (c * q.natAbs) e').value =
      (Decimal.finite s c e').value * q := by
    simp only [value, signed_mul]
    push_cast
    ring
  simp only [mul, propagateNaN, ofInt, Int.add_zero]
  by_cases hzero : c * q.natAbs = 0
  · refine ⟨min (max e' moneyContext.tiny) moneyContext.maxExponent, by rw [htiny, hmax]; omega,
      ?_, hvalue _ hexact (.inl hzero)⟩
    rw [hzero]
    exact fit_zero_clamp _ _
  · have hc : c * q.natAbs < 10 ^ 28 := by
      have := coeff_lt_of_abs h (le_refl e') (hexact ▸ hbound)
      simpa using this
    have hlt := exp_lt_of_abs hzero (hexact ▸ hbound)
    exact ⟨e', h, fit_grid _ hc (by omega) (by omega), hexact⟩

end Grid

/-! ## Fitting and quantizing below a bound in cents

Rounding to the nearest never passes a bound that is a whole number of units. Fitting a product
of 28 digits rounds it at an exponent of cents or below while it stays below `10 ^ 26`, and
quantizing rounds it at cents, so a product of at most `k` cents stays at most `k` cents through
both (`fit_le_cents`, `mul_quantize_le`), whatever the exponents of its factors. -/

/-- A nonzero amount below `10 ^ b` has its last digit at an exponent of at most `b` less its
number of digits. -/
theorem digitCount_add_le_of_lt {c : Nat} (hc : c ≠ 0) {e b : Int}
    (h : (c : ℚ) * 10 ^ e < 10 ^ b) : (digitCount c : Int) + e ≤ b := by
  have hlow : (10 : ℚ) ^ (((digitCount c - 1 : Nat) : Int) + e) < 10 ^ b := by
    rw [zpow_add₀ (by norm_num), zpow_natCast]
    calc (10 : ℚ) ^ (digitCount c - 1) * 10 ^ e ≤ c * 10 ^ e := by
          gcongr
          exact_mod_cast pow_pred_digitCount_le hc
      _ < 10 ^ b := h
  have := (zpow_lt_zpow_iff_right₀ (by norm_num : (1 : ℚ) < 10)).1 hlow
  have := digitCount_pos c
  omega

theorem cents_eq_units (k : Nat) {least : Int} (h : least ≤ -2) :
    (k : ℚ) / 100 = ((k * 10 ^ (-2 - least).toNat : Nat) : ℚ) * 10 ^ least := by
  push_cast
  rw [← zpow_natCast, show (((-2 - least).toNat : Nat) : Int) = -2 - least by omega,
    mul_assoc, ← zpow_add₀ (by norm_num), show -2 - least + least = -2 by ring]
  norm_num
  ring

/-- Rounding at an exponent of cents or below keeps an amount of at most `k` cents at most `k`
cents: there `k` cents are a whole number of units, which rounding to the nearest never passes. -/
theorem roundAt_le_cents (c : Nat) {e least : Int} (hlt : e < least) (hle : least ≤ -2)
    {k : Nat} (hc : (c : ℚ) * 10 ^ e ≤ k / 100) :
    ((roundAt c e least : Nat) : ℚ) * 10 ^ least ≤ k / 100 := by
  have hunits := cents_eq_units k hle
  have hpos : (0 : ℚ) < 10 ^ least := zpow_pos (by norm_num) _
  -- the exact amount at `least` is at most `k` cents written there, a whole number of units
  have hx : |(c : ℚ) * 10 ^ (e - least)| ≤ ((k * 10 ^ (-2 - least).toNat : Nat) : Int) := by
    rw [abs_of_nonneg (by positivity)]
    have hsplit : (c : ℚ) * 10 ^ (e - least) * 10 ^ least = c * 10 ^ e := by
      rw [mul_assoc, ← zpow_add₀ (by norm_num), sub_add_cancel]
    have hle : (c : ℚ) * 10 ^ (e - least) * 10 ^ least ≤
        ((k * 10 ^ (-2 - least).toNat : Nat) : ℚ) * 10 ^ least := by
      rw [hsplit, ← hunits]
      exact hc
    exact_mod_cast le_of_mul_le_mul_right hle hpos
  have hr := (roundAt_rounds c hlt).abs_le_of_abs_le hx
  rw [abs_of_nonneg (by positivity)] at hr
  rw [hunits]
  exact mul_le_mul_of_nonneg_right (by exact_mod_cast hr) hpos.le

theorem div_ten_value_le (r : Nat) (least : Int) :
    ((r / 10 : Nat) : ℚ) * 10 ^ (least + 1) ≤ (r : ℚ) * 10 ^ least := by
  have hdrop : ((r / 10 : Nat) : ℚ) * 10 ≤ r := by exact_mod_cast Nat.div_mul_le_self _ 10
  calc ((r / 10 : Nat) : ℚ) * 10 ^ (least + 1) = ((r / 10 : Nat) : ℚ) * 10 * 10 ^ least := by
        rw [zpow_add_one₀ (by norm_num)]
        ring
    _ ≤ (r : ℚ) * 10 ^ least := by gcongr

/-- Fitting an amount of at most `k` cents, with `k` below `10 ^ 28`, gives an amount of at most
`k` cents: a rounding, if any, is to the nearest at an exponent of cents or below, where `k`
cents is a whole number of units; a carry into a 29th digit only drops a zero. -/
theorem fit_le_cents (s : Bool) (c : Nat) (e : Int) {k : Nat} (hk : k < 10 ^ 28)
    (hc : (c : ℚ) * 10 ^ e ≤ k / 100) :
    ∃ c' e', fit moneyContext s c e = .ok (.finite s c' e') ∧ (c' : ℚ) * 10 ^ e' ≤ k / 100 := by
  have hkq : (k : ℚ) / 100 < 10 ^ (26 : Int) := by
    have : (k : ℚ) < 10 ^ 28 := by exact_mod_cast hk
    rw [div_lt_iff₀ (by norm_num)]
    norm_num
    linarith
  by_cases hzero : c = 0
  · subst hzero
    refine ⟨0, _, fit_zero_clamp s e, ?_⟩
    simp only [Nat.cast_zero, zero_mul]
    positivity
  -- a nonzero amount below `10 ^ 26` has its last kept digit at cents or below
  have hd := digitCount_add_le_of_lt hzero (lt_of_le_of_lt hc hkq)
  have hprec : moneyContext.precision = 28 := rfl
  have htiny : moneyContext.tiny = -1000026 := rfl
  have htop : moneyContext.top = 999972 := rfl
  have hne : (c == 0) = false := by simpa using hzero
  by_cases hlt : e < max ((digitCount c : Int) + e - 28) (-1000026)
  · -- rounded at `least`, an exponent of cents or below
    generalize hleast : max ((digitCount c : Int) + e - 28) (-1000026) = least at hlt
    have hbound := roundAt_le_cents c hlt (by omega) hc
    unfold fit
    simp only [hne, Bool.false_eq_true, if_false, hprec, Nat.cast_ofNat, htiny, htop, hleast, hlt,
      if_true]
    rw [if_neg (by omega)]
    by_cases hcarry : digitCount (roundAt c e least) > 28
    · -- a carry drops the last digit, a zero
      refine ⟨roundAt c e least / 10, least + 1, ?_, le_trans (div_ten_value_le _ _) hbound⟩
      simp only [hcarry, if_true]
      rw [if_neg (by omega)]
    · refine ⟨roundAt c e least, least, ?_, hbound⟩
      simp only [hcarry, if_false]
      rw [if_neg (by omega)]
  · refine ⟨c, e, ?_, hc⟩
    unfold fit
    simp only [hne, Bool.false_eq_true, if_false, hprec, Nat.cast_ofNat, htiny, htop, hlt]
    rw [if_neg (by omega)]

/-- The fee per ticket times a count of at most `k` cents, with `k` below `10 ^ 28`, fits and
quantizes to at most `k` cents, whatever the fee's exponent. -/
theorem mul_quantize_le (sf : Bool) (cf : Nat) (ef : Int) (n : Int) {k : Nat} (hk : k < 10 ^ 28)
    (hbound : |(Decimal.finite sf cf ef).value * n| ≤ k / 100) :
    ∃ x s c, mul moneyContext (.finite sf cf ef) (ofInt n) = .ok x ∧
      quantize moneyContext x (-2) = .ok (.finite s c (-2)) ∧ c ≤ k := by
  have hsize : (((cf * n.natAbs : Nat) : ℚ)) * 10 ^ ef ≤ k / 100 := by
    rw [abs_mul, abs_value] at hbound
    push_cast
    rw [mul_right_comm, Nat.cast_natAbs, Int.cast_abs]
    exact hbound
  obtain ⟨c', e', hfit, hle⟩ := fit_le_cents (sf != decide (n < 0)) (cf * n.natAbs) ef hk hsize
  have hmul : mul moneyContext (.finite sf cf ef) (ofInt n) =
      .ok (.finite (sf != decide (n < 0)) c' e') := by
    simp only [mul, propagateNaN, ofInt, Int.add_zero, hfit]
  -- the product is at most `k` cents, so it quantizes to at most `k` cents
  have hcents : |(Decimal.finite (sf != decide (n < 0)) c' e').value| ≤ k / 100 := by
    rwa [abs_value]
  have hk' : (k : ℚ) / 100 + 1 / 100 ≤ 10 ^ 26 := by
    have hk1 : k + 1 ≤ 10 ^ 28 := hk
    have : (k : ℚ) + 1 ≤ 10 ^ 28 := by exact_mod_cast hk1
    linarith
  obtain ⟨c₂, hq, -, hround⟩ := quantize_rounds (sf != decide (n < 0)) c' e' (by linarith)
  have habs := hround.abs_le_of_abs_le (k := k) (by
    rw [abs_mul, abs_of_pos (by norm_num : (0 : ℚ) < 100)]
    push_cast
    linarith)
  rw [Int.abs_eq_natAbs, natAbs_signed] at habs
  exact ⟨_, _, c₂, hmul, hq, by exact_mod_cast habs⟩

end TicketCheckout.Number.Decimal

namespace TicketCheckout

open Number Decimal

/-- Pricing runs its steps in order: given what each returns, it returns the amounts. -/
theorem Pricing.ofLines_of_steps {fee : Decimal} {ls : List OrderLine} (hne : ls ≠ [])
    {sum subtotal product serviceFee total : Decimal} (hsum : lineSum ls zero = .ok sum)
    (hsubtotal : quantize moneyContext sum (-2) = .ok subtotal)
    (hmul : mul moneyContext fee (ofInt (TicketCheckout.ticketCount ls)) = .ok product)
    (hfee : quantize moneyContext product (-2) = .ok serviceFee)
    (htotal : add moneyContext subtotal serviceFee = .ok total) :
    Pricing.ofLines fee ls = .ok ⟨subtotal, serviceFee, total, TicketCheckout.ticketCount ls⟩ := by
  have hempty : ls.isEmpty = false := List.isEmpty_eq_false_iff.mpr hne
  unfold Pricing.ofLines
  simp only [hempty, Bool.false_eq_true, if_false, hsum, liftDecimal, centsExponent, hsubtotal,
    hmul, hfee, htotal, bind, Except.bind, Except.mapError]
  rfl

/-- Lines priced in cents, with a finite fee per ticket of any exponent, are priced with every
amount in cents while the sizes of the line totals and of the fees add up to at most a cent below
`10 ^ 26`: the subtotal is the exact sum, the fee rounds to at most the cents left below
`10 ^ 28`, and the total adds them exactly. -/
theorem Pricing.ofLines_in_cents {sf : Bool} {cf : Nat} {ef : Int} {ls : List OrderLine}
    (hne : ls ≠ []) (hprices : ∀ l ∈ ls, ∃ s c, l.unitPrice = .finite s c (-2))
    (hsize : (ls.map fun l => |l.totalValue|).sum +
      |(Decimal.finite sf cf ef).value * TicketCheckout.ticketCount ls| + 1 / 100 ≤ 10 ^ 26) :
    ∃ p, Pricing.ofLines (.finite sf cf ef) ls = .ok p ∧
      (∃ s c, p.subtotal = .finite s c (-2)) ∧ (∃ s c, p.serviceFee = .finite s c (-2)) ∧
      ∃ s c, p.total = .finite s c (-2) ∧ c < 10 ^ 28 := by
  have h28 : (10 : Nat) ^ 28 = 10000000000000000000000000000 := by norm_num
  have hsizes : 0 ≤ (ls.map fun l => |l.totalValue|).sum := List.sum_nonneg (by simp)
  have hfees := abs_nonneg ((Decimal.finite sf cf ef).value * TicketCheckout.ticketCount ls)
  have hrun : ∀ k, |((ls.take k).map OrderLine.totalValue).sum| < 10 ^ 26 := fun k =>
    lt_of_le_of_lt (abs_sum_take_le ls k) (by linarith)
  have hlines : ∀ l ∈ ls, |l.totalValue| < 10 ^ 26 := fun l hl =>
    lt_of_le_of_lt (List.single_le_sum (by simp) _
      (List.mem_map_of_mem (f := fun l : OrderLine => |l.totalValue|) hl)) (by linarith)
  have hall : |(ls.map OrderLine.totalValue).sum| ≤ (ls.map fun l => |l.totalValue|).sum := by
    simpa using abs_sum_take_le ls ls.length
  obtain ⟨s₁, c₁, hsum, hsum_value⟩ := lineSum_zero_of_cents hne hprices hlines hrun
  -- the subtotal's cents leave `k` cents for the fee below `10 ^ 28`
  have hc₁ : (c₁ : ℚ) / 100 ≤ (ls.map fun l => |l.totalValue|).sum := by
    have habs : |((signed s₁ c₁ : Int) : ℚ) / 100| = (c₁ : ℚ) / 100 := by
      rw [abs_div, abs_of_pos (by norm_num : (0 : ℚ) < 100)]
      cases s₁ <;> simp [signed]
    rw [← habs, hsum_value]
    exact hall
  have hroom : c₁ + 1 ≤ 10 ^ 28 := by
    have : (c₁ : ℚ) + 1 ≤ 10 ^ 28 := by linarith
    exact_mod_cast this
  have hc₁28 : c₁ < 10 ^ 28 := hroom
  obtain ⟨x, s₂, c₂, hmul, hq, hc₂⟩ := mul_quantize_le sf cf ef (TicketCheckout.ticketCount ls)
    (k := 10 ^ 28 - 1 - c₁) (by omega) (by
      rw [Nat.cast_sub (by omega), Nat.cast_sub (by omega)]
      push_cast
      linarith)
  -- the total adds two amounts whose cents stay below `10 ^ 28` together
  have htotal : (signed s₁ c₁ + signed s₂ c₂).natAbs < 10 ^ 28 := by
    have := Int.natAbs_add_le (signed s₁ c₁) (signed s₂ c₂)
    rw [natAbs_signed, natAbs_signed] at this
    omega
  obtain ⟨s₃, c₃, hadd, hs₃⟩ := add_cents htotal
  exact ⟨_, Pricing.ofLines_of_steps hne hsum (quantize_cents s₁ hc₁28) hmul hq hadd,
    ⟨s₁, c₁, rfl⟩, ⟨s₂, c₂, rfl⟩, s₃, c₃, rfl, by rw [← natAbs_signed s₃ c₃, hs₃]; exact htotal⟩

section Grid

variable {e : Int} (he : moneyContext.tiny ≤ e) (he0 : e ≤ 0)
include he he0

theorem OrderLine.total_grid {l : OrderLine} {s : Bool} {c : Nat} {e' : Int}
    (hprice : l.unitPrice = .finite s c e') (h : e ≤ e') (hbound : |l.totalValue| < 10 ^ (28 + e)) :
    ∃ s' c' e'', e ≤ e'' ∧ l.total = .ok (.finite s' c' e'') ∧
      (Decimal.finite s' c' e'').value = l.totalValue := by
  have htv : l.totalValue = (Decimal.finite s c e').value * l.quantity := by
    rw [OrderLine.totalValue, hprice, mul_comm]
  obtain ⟨e'', he'', hmul, hvalue⟩ := mul_grid he he0 h l.quantity (htv ▸ hbound)
  exact ⟨_, _, e'', he'', by rw [OrderLine.total, hprice, hmul]; rfl, hvalue.trans htv.symm⟩

/-- Summing lines priced on the grid of `10 ^ e`, from an amount on the grid, is exact while the
sizes of the start and of the lines add up to less than `10 ^ (28 + e)`. -/
theorem lineSum_grid {ls : List OrderLine}
    (hprices : ∀ l ∈ ls, ∃ s c e', l.unitPrice = .finite s c e' ∧ e ≤ e')
    {s : Bool} {c : Nat} {ea : Int} (ha : e ≤ ea)
    (hsize : |(Decimal.finite s c ea).value| + (ls.map fun l => |l.totalValue|).sum <
      10 ^ (28 + e)) :
    ∃ s' c' e', e ≤ e' ∧ lineSum ls (.finite s c ea) = .ok (.finite s' c' e') ∧
      (Decimal.finite s' c' e').value =
        (Decimal.finite s c ea).value + (ls.map OrderLine.totalValue).sum := by
  induction ls generalizing s c ea with
  | nil => exact ⟨s, c, ea, ha, rfl, by simp⟩
  | cons l rest ih =>
    simp only [List.map_cons, List.sum_cons] at hsize
    have hrest : 0 ≤ (rest.map fun l => |l.totalValue|).sum := List.sum_nonneg (by simp)
    have hacc := abs_nonneg (Decimal.finite s c ea).value
    have hl := abs_nonneg l.totalValue
    obtain ⟨sl, cl, el, hprice, hel⟩ := hprices l List.mem_cons_self
    obtain ⟨st, ct, et, het, htotal, hvalue⟩ :=
      OrderLine.total_grid he he0 hprice hel (by linarith)
    -- the running total adds the line to the amount so far, within the bound
    have hline : |(Decimal.finite st ct et).value| < 10 ^ (28 + e) := by
      rw [hvalue]
      linarith
    have hrun : |(Decimal.finite s c ea).value + (Decimal.finite st ct et).value| ≤
        |(Decimal.finite s c ea).value| + |l.totalValue| := by
      rw [← hvalue]
      exact abs_add_le _ _
    obtain ⟨sa, ca, ea', ha', hadd, hsum⟩ := add_grid he he0 ha het
      (show |(Decimal.finite s c ea).value| < 10 ^ (28 + e) by linarith) hline (by linarith)
    obtain ⟨s', c', e', he', hrest', hvalue'⟩ :=
      ih (fun l hl => hprices l (List.mem_cons_of_mem _ hl)) ha' (by rw [hsum]; linarith)
    refine ⟨s', c', e', he', ?_, ?_⟩
    · simp only [lineSum, htotal, bind, Except.bind, liftDecimal, hadd, Except.mapError, hrest']
    · rw [hvalue', hsum, hvalue, List.map_cons, List.sum_cons, add_assoc]

end Grid

/-! ## Pricing rounds half to even -/

/-- Pricing rounds half to even at cents. Take unit prices and a fee per ticket on a common grid
of `10 ^ e` (exponents of at least `e`), the sizes of the line totals and of the fees adding up
to less than `10 ^ (28 + e)`, so that every product and running total is exact with 28 digits,
and to a unit less than `10 ^ 26`. Then pricing succeeds; the subtotal is the exact sum of the
lines rounded half to even to cents, the service fee is the fee times the tickets rounded the
same way, the total is their exact sum, all three in cents; and the minor units of the total are
its cents. -/
theorem Pricing.ofLines_rounds_half_even {e : Int} (he : moneyContext.tiny ≤ e)
    {ls : List OrderLine} (hne : ls ≠ [])
    (hprices : ∀ l ∈ ls, ∃ s c e', l.unitPrice = .finite s c e' ∧ e ≤ e')
    {sf : Bool} {cf : Nat} {ef : Int} (hfee : e ≤ ef)
    (hgrid : (ls.map fun l => |l.totalValue|).sum +
      |(Decimal.finite sf cf ef).value * TicketCheckout.ticketCount ls| < 10 ^ (28 + e))
    (hsize : (ls.map fun l => |l.totalValue|).sum +
      |(Decimal.finite sf cf ef).value * TicketCheckout.ticketCount ls| + 1 ≤ 10 ^ 26) :
    ∃ p, Pricing.ofLines (.finite sf cf ef) ls = .ok p ∧
      ∃ s₁ c₁ s₂ c₂ s₃ c₃, p.subtotal = .finite s₁ c₁ (-2) ∧
        p.serviceFee = .finite s₂ c₂ (-2) ∧ p.total = .finite s₃ c₃ (-2) ∧
        RoundsHalfEven (100 * (ls.map OrderLine.totalValue).sum) (signed s₁ c₁) ∧
        RoundsHalfEven (100 * ((Decimal.finite sf cf ef).value * TicketCheckout.ticketCount ls))
          (signed s₂ c₂) ∧
        signed s₃ c₃ = signed s₁ c₁ + signed s₂ c₂ ∧ minorUnits p.total = .ok (signed s₃ c₃) := by
  have hsizes : 0 ≤ (ls.map fun l => |l.totalValue|).sum := List.sum_nonneg (by simp)
  have hfees := abs_nonneg ((Decimal.finite sf cf ef).value * TicketCheckout.ticketCount ls)
  have hall : |(ls.map OrderLine.totalValue).sum| ≤ (ls.map fun l => |l.totalValue|).sum := by
    simpa using abs_sum_take_le ls ls.length
  have hzero : (Decimal.finite false 0 0).value = 0 := by simp [value, signed]
  -- the arithmetic is exact on the grid of `10 ^ g`, `g` the lower of `e` and zero: past zero
  -- the bound of `10 ^ 26` keeps every amount within 28 digits at units
  have hg : moneyContext.tiny ≤ min e 0 := le_min he (by decide)
  have hgrid' : (ls.map fun l => |l.totalValue|).sum +
      |(Decimal.finite sf cf ef).value * TicketCheckout.ticketCount ls| < 10 ^ (28 + min e 0) := by
    rcases le_total e 0 with h | h
    · rwa [min_eq_left h]
    · rw [min_eq_right h]
      have h26 : (10 : ℚ) ^ 26 < 10 ^ ((28 : Int) + 0) := by norm_num
      linarith
  have hprices' : ∀ l ∈ ls, ∃ s c e', l.unitPrice = .finite s c e' ∧ min e 0 ≤ e' :=
    fun l hl => (hprices l hl).imp fun _ => .imp fun _ => .imp fun _ h =>
      ⟨h.1, min_le_of_left_le h.2⟩
  -- the lines add up exactly on the grid, from the zero an empty sum starts from
  obtain ⟨s₀, c₀, e₀, -, hsum, hsum_value⟩ := lineSum_grid hg (min_le_right e 0) hprices'
    (min_le_right e 0) (by rw [hzero, abs_zero, zero_add]; linarith)
  rw [hzero, zero_add] at hsum_value
  obtain ⟨c₁, hq₁, -, hround₁⟩ := quantize_rounds s₀ c₀ e₀ (by rw [hsum_value]; linarith)
  -- the fee times the tickets is exact on the grid too
  obtain ⟨e₂, -, hmul, hfee_value⟩ := mul_grid hg (min_le_right e 0) (min_le_of_left_le hfee)
    (TicketCheckout.ticketCount ls) (by linarith)
  obtain ⟨c₂, hq₂, -, hround₂⟩ := quantize_rounds _ _ e₂ (by rw [hfee_value]; linarith)
  rw [hsum_value] at hround₁
  rw [hfee_value] at hround₂
  -- each rounding moves by at most half a cent, so the total stays below `10 ^ 26`
  have htotal : (signed s₀ c₁ + signed (sf != decide (TicketCheckout.ticketCount ls < 0)) c₂).natAbs
      < 10 ^ 28 := by
    apply natAbs_lt_of_cents
    have h₁ := abs_le.1 hround₁.near
    have h₂ := abs_le.1 hround₂.near
    have hS := abs_le.1 hall
    have hF := abs_le.1 (le_refl
      |(Decimal.finite sf cf ef).value * TicketCheckout.ticketCount ls|)
    push_cast
    rw [abs_lt]
    constructor <;> linarith
  obtain ⟨s₃, c₃, hadd, hs₃⟩ := add_cents htotal
  have hc₃ : c₃ < 10 ^ 28 := by
    have := htotal
    rwa [← hs₃, natAbs_signed] at this
  exact ⟨_, Pricing.ofLines_of_steps hne hsum hq₁ hmul hq₂ hadd, s₀, c₁, _, c₂, s₃, c₃, rfl, rfl,
    rfl, hround₁, hround₂, hs₃, minorUnits_cents s₃ hc₃⟩

/-- An eighth at three decimals with a fee of two and a half: the law applies on the grid of
thousandths. -/
theorem pricing_rounds_an_eighth_half_even :
    let ls : List OrderLine := [⟨1, 1, 1, none, 1, .finite false 125 (-3)⟩]
    moneyContext.tiny ≤ -3 ∧ ls ≠ [] ∧
      (∀ l ∈ ls, ∃ s c e', l.unitPrice = .finite s c e' ∧ -3 ≤ e') ∧ (-3 : Int) ≤ -2 ∧
      (ls.map fun l => |l.totalValue|).sum +
        |(Decimal.finite false 250 (-2)).value * TicketCheckout.ticketCount ls| <
          10 ^ (28 + (-3 : Int)) ∧
      (ls.map fun l => |l.totalValue|).sum +
        |(Decimal.finite false 250 (-2)).value * TicketCheckout.ticketCount ls| + 1 ≤ 10 ^ 26 ∧
      ∃ p, Pricing.ofLines (.finite false 250 (-2)) ls = .ok p ∧
        ∃ s₁ c₁ s₂ c₂ s₃ c₃, p.subtotal = .finite s₁ c₁ (-2) ∧
          p.serviceFee = .finite s₂ c₂ (-2) ∧ p.total = .finite s₃ c₃ (-2) ∧
          RoundsHalfEven (100 * (ls.map OrderLine.totalValue).sum) (signed s₁ c₁) ∧
          RoundsHalfEven
            (100 * ((Decimal.finite false 250 (-2)).value * TicketCheckout.ticketCount ls))
            (signed s₂ c₂) ∧
          signed s₃ c₃ = signed s₁ c₁ + signed s₂ c₂ ∧ minorUnits p.total = .ok (signed s₃ c₃) := by
  intro ls
  have hprices : ∀ l ∈ ls, ∃ s c e', l.unitPrice = .finite s c e' ∧ -3 ≤ e' := by
    intro l hl
    rw [List.mem_singleton] at hl
    exact ⟨false, 125, -3, by rw [hl], by norm_num⟩
  have hgrid : (ls.map fun l => |l.totalValue|).sum +
      |(Decimal.finite false 250 (-2)).value * TicketCheckout.ticketCount ls| <
        10 ^ (28 + (-3 : Int)) := by
    norm_num [ls, OrderLine.totalValue, value, signed, TicketCheckout.ticketCount]
  have hsize : (ls.map fun l => |l.totalValue|).sum +
      |(Decimal.finite false 250 (-2)).value * TicketCheckout.ticketCount ls| + 1 ≤ 10 ^ 26 := by
    norm_num [ls, OrderLine.totalValue, value, signed, TicketCheckout.ticketCount]
  exact ⟨by decide, List.cons_ne_nil _ _, hprices, by norm_num, hgrid, hsize,
    Pricing.ofLines_rounds_half_even (by decide) (List.cons_ne_nil _ _) hprices (by norm_num) hgrid
      hsize⟩

/-- An eighth of a unit is a tie at cents, and goes to the even cent. -/
example : (Pricing.ofLines (.finite false 250 (-2))
    [⟨1, 1, 1, none, 1, .finite false 125 (-3)⟩]).map (·.subtotal) =
      .ok (.finite false 12 (-2)) := by
  rfl

/-- A unit price just below a cent and a half has 29 digits: its line total is rounded to 28
digits, up to the half cent, and quantizing then rounds up to two cents where the exact price
rounds to one. With a fee just below `10 ^ 26` the total needs 29 digits at cents as well, and is
rounded to a tenth without any failure. -/
theorem pricing_rounds_twice_at_a_half_cent :
    let ls : List OrderLine :=
      [⟨1, 1, 1, none, 1, .finite false 14999999999999999999999999999 (-30)⟩]
    let fee : Decimal := .finite false 9999999999999999999999999999 (-2)
    RoundsHalfEven (100 * (ls.map OrderLine.totalValue).sum) 1 ∧
      (Pricing.ofLines fee ls).toOption.map (·.subtotal) = some (.finite false 2 (-2)) ∧
      (Pricing.ofLines fee ls).toOption.map (·.total) =
        some (.finite false 1000000000000000000000000000 (-1)) := by
  intro ls fee
  have hvalue : 100 * (ls.map OrderLine.totalValue).sum =
      14999999999999999999999999999 / 10 ^ 28 := by
    norm_num [ls, OrderLine.totalValue, value, signed]
  refine ⟨⟨?_, fun h => ?_⟩, by decide +kernel, by decide +kernel⟩
  · rw [hvalue]
    norm_num [abs_le]
  · rw [hvalue] at h
    norm_num at h

end TicketCheckout
