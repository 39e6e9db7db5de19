import TicketCheckout.Proofs.Calls

/-!
# Pricing in cents

Decimal arithmetic with 28 significant digits is exact on amounts in cents while they keep
within those digits. So lines priced in cents, each line total and each running total below
`10 ^ 26`, have as subtotal the exact sum of their totals, in cents (`Pricing.subtotal_cents`),
and the minor units of an amount in cents are its cents (`minorUnits_cents`). Every product
(`mul_cents`), sum (`add_cents`, `zero_add_cents`) and quantizing (`quantize_cents_of_exp`) is
exact there; scaling a total to minor units may pass 28 digits, but then only trailing zeros are
dropped (`fit_mul_pow`). A fee per ticket with more decimals is rounded; that is taken up with
rounding (`Pricing.ofLines_in_cents`).
-/
namespace TicketCheckout.Number.Decimal

/-- The rational value of a finite decimal; zero for the others. -/
def value : Decimal → ℚ
  | .finite s c e => (signed s c : ℚ) * 10 ^ e
  | _ => 0

/-! ## Amounts in cents -/

theorem value_cents (s : Bool) (c : Nat) : (Decimal.finite s c (-2)).value = (signed s c : ℚ) / 100 := by
  simp only [value, zpow_neg, div_eq_mul_inv]
  norm_num

theorem signed_natAbs (n : Int) : signed (decide (n < 0)) n.natAbs = n := by
  by_cases hn : n < 0
  · simp only [signed, hn, decide_true, if_true]
    omega
  · simp only [signed, hn, decide_false, Bool.false_eq_true, if_false]
    omega

theorem fit_grid (s : Bool) {c : Nat} {e : Int} (hc : c < 10 ^ 28) (hlow : moneyContext.tiny ≤ e)
    (hhigh : e ≤ 28) : fit moneyContext s c e = .ok (.finite s c e) := by
  have hd : digitCount c ≤ 28 := Nat.toDigits_length 10 c 28 (by norm_num) hc
  exact fit_exact _ s c e hd hlow (by simp [moneyContext]; omega)

theorem fit_cents (s : Bool) {c : Nat} (hc : c < 10 ^ 28) :
    fit moneyContext s c (-2) = .ok (.finite s c (-2)) :=
  fit_grid s hc (by decide) (by decide)

theorem signed_zero (s : Bool) : signed s 0 = 0 := by
  cases s <;> rfl

theorem natAbs_signed (s : Bool) (c : Nat) : (signed s c).natAbs = c := by
  cases s <;> simp [signed]

theorem signed_mul (s : Bool) (c : Nat) (q : Int) :
    signed (s != decide (q < 0)) (c * q.natAbs) = signed s c * q := by
  by_cases hq : q < 0
  · have habs : ((q.natAbs : Nat) : Int) = -q := by omega
    cases s <;> simp only [signed, hq, decide_true, bne_self_eq_false, Bool.bne_true, Bool.not_false,
      Bool.false_eq_true, if_true, if_false, Nat.cast_mul, habs] <;> ring
  · have habs : ((q.natAbs : Nat) : Int) = q := by omega
    cases s
    · simp only [signed, hq, decide_false, Bool.bne_false, Bool.false_eq_true, if_false,
        Nat.cast_mul, habs]
    · simp only [signed, hq, decide_false, Bool.bne_false, if_true, Nat.cast_mul, habs]
      ring

theorem mul_cents (s : Bool) (c : Nat) (q : Int) (h : c * q.natAbs < 10 ^ 28) :
    mul moneyContext (.finite s c (-2)) (ofInt q) =
      .ok (.finite (s != decide (q < 0)) (c * q.natAbs) (-2)) := by
  simp only [mul, propagateNaN, ofInt]
  exact fit_cents _ h

/-- The sum of two amounts in cents, when it has at most 28 digits. -/
theorem add_cents {s₁ s₂ : Bool} {c₁ c₂ : Nat}
    (h : (signed s₁ c₁ + signed s₂ c₂).natAbs < 10 ^ 28) :
    ∃ s c, add moneyContext (.finite s₁ c₁ (-2)) (.finite s₂ c₂ (-2)) = .ok (.finite s c (-2)) ∧
      signed s c = signed s₁ c₁ + signed s₂ c₂ := by
  have hp : (moneyContext.precision : Int) = 28 := rfl
  have hmin : min (-2 : Int) (-2) = -2 := rfl
  have hmax : max (-2 : Int) (-2 - 28 - 1) = -2 := rfl
  simp only [add, propagateNaN, hp, hmin, hmax, Int.sub_self, Int.toNat_zero, Nat.pow_eq,
    Nat.pow_zero, Nat.mul_one]
  by_cases h1 : c₁ = 0 <;> by_cases h2 : c₂ = 0
  · -- two zeros
    subst h1 h2
    refine ⟨s₁ && s₂, 0, ?_, by simp [signed_zero]⟩
    simp only [beq_self_eq_true, Bool.and_self, if_true]
    exact fit_cents _ (by norm_num)
  · -- a zero and an amount: the amount, as it is
    subst h1
    have hc₂ : c₂ < 10 ^ 28 := by cases s₂ <;> simpa [signed_zero, signed] using h
    refine ⟨s₂, c₂, ?_, by simp [signed_zero]⟩
    simp only [beq_self_eq_true, show (c₂ == 0) = false by simpa using h2, Bool.and_false,
      Bool.false_eq_true, if_false, if_true]
    exact fit_cents _ hc₂
  · subst h2
    have hc₁ : c₁ < 10 ^ 28 := by cases s₁ <;> simpa [signed_zero, signed] using h
    refine ⟨s₁, c₁, ?_, by simp [signed_zero]⟩
    simp only [beq_self_eq_true, show (c₁ == 0) = false by simpa using h1, Bool.false_and,
      Bool.false_eq_true, if_false, if_true]
    exact fit_cents _ hc₁
  · -- two amounts with the same exponent add exactly
    have hd := digitCount_pos c₂
    simp only [show (c₁ == 0) = false by simpa using h1, show (c₂ == 0) = false by simpa using h2,
      Bool.false_and, Bool.false_eq_true, if_false, le_refl, if_true, addNonzero, shrinkOperand, hp]
    -- the smaller operand is not replaced: it has a digit at the same place as the larger
    have hkeep : ¬ ((digitCount c₂ : Int) + -2 - 1 < -2 + min (-1) ((digitCount c₁ : Int) - 28 - 2)) := by
      omega
    simp only [hkeep, if_false, Int.sub_self, Int.toNat_zero, Nat.pow_eq, Nat.pow_zero, Nat.mul_one]
    split
    · rename_i hzero
      refine ⟨false, 0, fit_cents _ (by norm_num), ?_⟩
      rw [beq_iff_eq] at hzero
      rw [signed_zero, hzero]
    · exact ⟨_, _, fit_cents _ h, signed_natAbs _⟩

/-- Adding an amount of cents to the zero an empty sum starts from gives the amount. -/
theorem zero_add_cents (s : Bool) {c : Nat} (hc : c < 10 ^ 28) :
    ∃ s', add moneyContext zero (.finite s c (-2)) = .ok (.finite s' c (-2)) ∧
      signed s' c = signed s c := by
  have hp : (moneyContext.precision : Int) = 28 := rfl
  have hmin : min (0 : Int) (-2) = -2 := rfl
  have hmax : max (-2 : Int) (-2 - 28 - 1) = -2 := rfl
  simp only [add, propagateNaN, zero, hp, hmin, hmax, Int.sub_self, Int.toNat_zero, Nat.pow_eq,
    Nat.pow_zero, Nat.mul_one, beq_self_eq_true, Bool.true_and, if_true]
  by_cases hzero : c = 0
  · subst hzero
    exact ⟨false, by simpa using fit_cents false (by norm_num), by simp [signed_zero]⟩
  · simp only [show (c == 0) = false by simpa using hzero, Bool.false_eq_true, if_false]
    exact ⟨s, fit_cents s hc, rfl⟩

/-! ## Trailing zeros -/

theorem lt_pow_toDigitsCore (f n : Nat) (h : n < f) :
    n < 10 ^ (Nat.toDigitsCore 10 f n []).length := by
  induction f generalizing n with
  | zero => omega
  | succ f ih =>
    simp only [Nat.toDigitsCore]
    split
    · simp only [List.length_cons, List.length_nil, zero_add, pow_one]
      omega
    · rw [Nat.toDigitsCore_lens_eq, pow_succ]
      have := ih (n / 10) (by omega)
      omega

theorem lt_pow_digitCount (n : Nat) : n < 10 ^ digitCount n :=
  lt_pow_toDigitsCore (n + 1) n (by omega)

theorem pow_le_toDigitsCore (f n : Nat) (h : n < f) (hn : n ≠ 0) :
    10 ^ ((Nat.toDigitsCore 10 f n []).length - 1) ≤ n := by
  induction f generalizing n with
  | zero => omega
  | succ f ih =>
    simp only [Nat.toDigitsCore]
    split
    · simp only [List.length_cons, List.length_nil, zero_add, Nat.sub_self, pow_zero]
      omega
    · rename_i hq
      rw [Nat.toDigitsCore_lens_eq, Nat.add_sub_cancel]
      have hlow := ih (n / 10) (by omega) hq
      -- one digit more than `n / 10`
      generalize (Nat.toDigitsCore 10 f (n / 10) []).length = len at hlow ⊢
      cases len with
      | zero => simp only [pow_zero]; omega
      | succ len =>
        rw [Nat.add_sub_cancel] at hlow
        rw [pow_succ]
        omega

theorem pow_pred_digitCount_le {n : Nat} (hn : n ≠ 0) : 10 ^ (digitCount n - 1) ≤ n :=
  pow_le_toDigitsCore (n + 1) n (by omega) hn

/-- Rounding away `k` trailing zeros gives back what they trail. -/
theorem roundAt_mul_pow (c k : Nat) (e : Int) : roundAt (c * 10 ^ k) e (e + k) = c := by
  have hpow : 0 < 10 ^ k := Nat.pow_pos (by norm_num)
  unfold roundAt
  split
  · -- fewer digits than zeros: only a zero has them
    rename_i hfew
    have hlt : c * 10 ^ k < 10 ^ k := lt_of_lt_of_le (lt_pow_digitCount _)
      (Nat.pow_le_pow_right (by norm_num) (by omega))
    have : c = 0 := by
      by_contra hc
      exact absurd hlt (not_lt.mpr (Nat.le_mul_of_pos_left _ (Nat.pos_of_ne_zero hc)))
    exact this.symm
  · have hk : (e + k - e).toNat = k := by omega
    simp only [divRoundHalfEven, hk, Nat.pow_eq, Nat.mul_div_cancel _ hpow, Nat.mul_mod_left]
    simp [hpow]

/-- Fitting `c × 10 ^ (e + k)`, written with `k` trailing zeros, to 28 digits drops some of the
zeros and nothing else, when `c` has at most 28 digits. -/
theorem fit_mul_pow (s : Bool) {c : Nat} (hc : c < 10 ^ 28) (k : Nat) {e : Int}
    (hlow : moneyContext.tiny ≤ e) (hhigh : e + k ≤ moneyContext.top) :
    ∃ j ≤ k, fit moneyContext s (c * 10 ^ k) e = .ok (.finite s (c * 10 ^ (k - j)) (e + j)) := by
  have hp : (moneyContext.precision : Int) = 28 := rfl
  have htiny : moneyContext.tiny = -1000026 := rfl
  have htop : moneyContext.top = 999972 := rfl
  have hmax : moneyContext.maxExponent = 999999 := rfl
  rw [htiny] at hlow
  rw [htop] at hhigh
  have hpow : 0 < 10 ^ k := Nat.pow_pos (by norm_num)
  have hbelow : c * 10 ^ k < 10 ^ (28 + k) := by
    rw [pow_add]
    exact Nat.mul_lt_mul_of_pos_right hc hpow
  have hd : digitCount (c * 10 ^ k) ≤ 28 + k := Nat.toDigits_length 10 _ _ (by omega) hbelow
  by_cases hzero : c = 0
  · subst hzero
    refine ⟨0, Nat.zero_le k, ?_⟩
    simp only [Nat.zero_mul, Nat.sub_zero, Nat.cast_zero, Int.add_zero]
    exact fit_zero _ s e (by omega) (by omega)
  · have hne : (c * 10 ^ k == 0) = false := by
      simpa using And.intro hzero (Nat.pos_iff_ne_zero.mp hpow)
    unfold fit
    simp only [hne, Bool.false_eq_true, if_false, hp, htiny, htop]
    rw [if_neg (by omega)]
    by_cases hdrop : e < max ((digitCount (c * 10 ^ k) : Int) + e - 28) (-1000026)
    · -- the digits beyond 28 are trailing zeros: `m` of them go
      obtain ⟨m, hm⟩ : ∃ m : Nat, digitCount (c * 10 ^ k) = 28 + m :=
        ⟨_, (Nat.add_sub_of_le (by omega : 28 ≤ digitCount (c * 10 ^ k))).symm⟩
      have hmk : m ≤ k := by omega
      have hleast : max ((digitCount (c * 10 ^ k) : Int) + e - 28) (-1000026) = e + m := by
        omega
      have hsplit : c * 10 ^ k = c * 10 ^ (k - m) * 10 ^ m := by
        rw [Nat.mul_assoc, ← pow_add, Nat.sub_add_cancel hmk]
      have hround : roundAt (c * 10 ^ k) e (e + m) = c * 10 ^ (k - m) := by
        rw [hsplit]
        exact roundAt_mul_pow _ m e
      have hfits : c * 10 ^ (k - m) < 10 ^ 28 := by
        have hlt := lt_pow_digitCount (c * 10 ^ k)
        rw [hm, pow_add, hsplit] at hlt
        exact Nat.lt_of_mul_lt_mul_right hlt
      have hkeep : ¬ digitCount (c * 10 ^ (k - m)) > 28 :=
        not_lt.mpr (Nat.toDigits_length 10 _ 28 (by norm_num) hfits)
      have hprec : moneyContext.precision = 28 := rfl
      refine ⟨m, hmk, ?_⟩
      rw [if_pos hdrop]
      simp only [hleast, hround, hprec, hkeep, if_false]
      rw [if_neg (by omega)]
    · exact ⟨0, Nat.zero_le k, by simp [hdrop]⟩

/-- Quantizing to cents an amount with at most two decimals only adds zeros, while the result
has at most 28 digits. -/
theorem quantize_cents_of_exp (s : Bool) {c : Nat} {e : Int} (he : -2 ≤ e)
    (hc : c * 10 ^ (e + 2).toNat < 10 ^ 28) :
    quantize moneyContext (.finite s c e) (-2) = .ok (.finite s (c * 10 ^ (e + 2).toNat) (-2)) := by
  simp only [quantize]
  rw [if_neg (by simp [moneyContext, Context.tiny])]
  by_cases hzero : c = 0
  · subst hzero
    simp only [beq_self_eq_true, if_true, Nat.zero_mul]
    exact fit_cents s (by norm_num)
  · simp only [show (c == 0) = false by simpa using hzero, Bool.false_eq_true, if_false]
    -- `c` has at most as many digits as the zeros leave room for
    have hk : (e + 2).toNat < 28 := by
      have : 10 ^ (e + 2).toNat < 10 ^ 28 :=
        lt_of_le_of_lt (Nat.le_mul_of_pos_left _ (Nat.pos_of_ne_zero hzero)) hc
      exact (Nat.pow_lt_pow_iff_right (by norm_num)).mp this
    have hcd : c < 10 ^ (28 - (e + 2).toNat) := by
      have h28 : 10 ^ 28 = 10 ^ (28 - (e + 2).toNat) * 10 ^ (e + 2).toNat := by
        rw [← pow_add, Nat.sub_add_cancel hk.le]
      rw [h28] at hc
      exact Nat.lt_of_mul_lt_mul_right hc
    have hd : digitCount c ≤ 28 - (e + 2).toNat := Nat.toDigits_length 10 _ _ (by omega) hcd
    have hd' : digitCount (c * 10 ^ (e + 2).toNat) ≤ 28 :=
      Nat.toDigits_length 10 _ 28 (by norm_num) hc
    have hp : (moneyContext.precision : Int) = 28 := rfl
    have hprec : moneyContext.precision = 28 := rfl
    have hmax : moneyContext.maxExponent = 999999 := rfl
    rw [if_neg (by simp only [hmax, hp, Bool.or_eq_true, decide_eq_true_eq]; omega)]
    have hrescale : rescaledCoeff c e (-2) = c * 10 ^ (e + 2).toNat := by
      simp only [rescaledCoeff, he, if_true, Nat.pow_eq, show e - -2 = e + 2 by omega]
    rw [hrescale, if_neg (by simp only [hprec, hmax, Bool.or_eq_true, decide_eq_true_eq]; omega)]
    exact fit_cents s hc

theorem quantize_cents (s : Bool) {c : Nat} (hc : c < 10 ^ 28) :
    quantize moneyContext (.finite s c (-2)) (-2) = .ok (.finite s c (-2)) := by
  simpa using quantize_cents_of_exp s (le_refl (-2)) (by simpa using hc)

end TicketCheckout.Number.Decimal

namespace TicketCheckout

open Number Decimal

/-! ## Lines and their sum -/

/-- What a line costs: its quantity times its unit price. -/
def OrderLine.totalValue (l : OrderLine) : ℚ := l.quantity * l.unitPrice.value

/-- An amount below `10 ^ 26` has fewer than 29 digits in cents. -/
theorem natAbs_lt_of_cents {x : Int} (h : |(x : ℚ) / 100| < 10 ^ 26) : x.natAbs < 10 ^ 28 := by
  have habs : |(x : ℚ)| < 10 ^ 28 := by
    rw [abs_div, abs_of_pos (by norm_num : (0 : ℚ) < 100), div_lt_iff₀ (by norm_num)] at h
    linarith
  have : ((x.natAbs : Nat) : ℚ) < 10 ^ 28 := by
    rw [Nat.cast_natAbs, Int.cast_abs]
    exact habs
  exact_mod_cast this

theorem signed_mul_nat (s : Bool) (a b : Nat) : signed s (a * b) = signed s a * b := by
  cases s <;> simp [signed]

/-- A line priced in cents costs its cents times its quantity. -/
theorem OrderLine.total_cents {l : OrderLine} {s : Bool} {c : Nat}
    (hprice : l.unitPrice = .finite s c (-2)) (hbound : |l.totalValue| < 10 ^ 26) :
    ∃ s' c', l.total = .ok (.finite s' c' (-2)) ∧ (signed s' c' : ℚ) / 100 = l.totalValue := by
  have hvalue : l.totalValue = ((signed s c * l.quantity : Int) : ℚ) / 100 := by
    rw [OrderLine.totalValue, hprice, value_cents]
    push_cast
    ring
  have hc : c * l.quantity.natAbs < 10 ^ 28 := by
    have := natAbs_lt_of_cents (hvalue ▸ hbound)
    rwa [← signed_mul, natAbs_signed] at this
  refine ⟨s != decide (l.quantity < 0), c * l.quantity.natAbs, ?_, ?_⟩
  · rw [OrderLine.total, hprice, mul_cents s c l.quantity hc]
    rfl
  · rw [hvalue, signed_mul]

/-- Summing lines priced in cents, from an amount in cents, gives an amount in cents, exactly,
while every running total stays below `10 ^ 26`. -/
theorem lineSum_of_cents {ls : List OrderLine}
    (hprices : ∀ l ∈ ls, ∃ s c, l.unitPrice = .finite s c (-2))
    (hlines : ∀ l ∈ ls, |l.totalValue| < 10 ^ 26) {s : Bool} {c : Nat}
    (hrun : ∀ k, |(signed s c : ℚ) / 100 + ((ls.take k).map OrderLine.totalValue).sum| < 10 ^ 26) :
    ∃ s' c', lineSum ls (.finite s c (-2)) = .ok (.finite s' c' (-2)) ∧
      (signed s' c' : ℚ) / 100 = (signed s c : ℚ) / 100 + (ls.map OrderLine.totalValue).sum := by
  induction ls generalizing s c with
  | nil => exact ⟨s, c, rfl, by simp⟩
  | cons l rest ih =>
    obtain ⟨sl, cl, hprice⟩ := hprices l List.mem_cons_self
    obtain ⟨st, ct, htotal, hvalue⟩ :=
      OrderLine.total_cents hprice (hlines l List.mem_cons_self)
    -- the first running total is the sum of the accumulator and the line
    have hfirst : (signed s c + signed st ct).natAbs < 10 ^ 28 := by
      apply natAbs_lt_of_cents
      have := hrun 1
      simp only [List.take_succ_cons, List.take_zero, List.map_cons, List.map_nil,
        List.sum_cons, List.sum_nil, add_zero] at this
      push_cast
      rwa [add_div, hvalue]
    obtain ⟨sa, ca, hadd, hsa⟩ := add_cents hfirst
    obtain ⟨s', c', hrest, hsum⟩ := ih (fun l hl => hprices l (List.mem_cons_of_mem _ hl))
      (fun l hl => hlines l (List.mem_cons_of_mem _ hl)) (fun k => by
        have := hrun (k + 1)
        simp only [List.take_succ_cons, List.map_cons, List.sum_cons] at this
        rw [hsa]
        push_cast
        rwa [add_div, hvalue, add_assoc])
    refine ⟨s', c', ?_, ?_⟩
    · simp only [lineSum, htotal, bind, Except.bind, liftDecimal, hadd, Except.mapError, hrest]
    · rw [hsum, hsa, List.map_cons, List.sum_cons]
      push_cast
      rw [add_div, hvalue, add_assoc]

/-- Summing lines priced in cents from the zero an empty sum starts from gives an amount in
cents, exactly, while every running total stays below `10 ^ 26`. -/
theorem lineSum_zero_of_cents {ls : List OrderLine} (hne : ls ≠ [])
    (hprices : ∀ l ∈ ls, ∃ s c, l.unitPrice = .finite s c (-2))
    (hlines : ∀ l ∈ ls, |l.totalValue| < 10 ^ 26)
    (hrun : ∀ k, |((ls.take k).map OrderLine.totalValue).sum| < 10 ^ 26) :
    ∃ s c, lineSum ls zero = .ok (.finite s c (-2)) ∧
      (signed s c : ℚ) / 100 = (ls.map OrderLine.totalValue).sum := by
  cases ls with
  | nil => exact absurd rfl hne
  | cons l rest =>
    -- the first line is added to a zero with exponent zero
    obtain ⟨sl, cl, hprice⟩ := hprices l List.mem_cons_self
    obtain ⟨st, ct, htotal, hvalue⟩ := OrderLine.total_cents hprice (hlines l List.mem_cons_self)
    have hct : ct < 10 ^ 28 := by
      have := natAbs_lt_of_cents (hvalue ▸ hlines l List.mem_cons_self)
      rwa [natAbs_signed] at this
    obtain ⟨s₀, hadd, hs₀⟩ := zero_add_cents st hct
    obtain ⟨s', c', hrest, hvalue'⟩ := lineSum_of_cents
      (fun l hl => hprices l (List.mem_cons_of_mem _ hl))
      (fun l hl => hlines l (List.mem_cons_of_mem _ hl)) (s := s₀) (c := ct) (fun k => by
        have := hrun (k + 1)
        simp only [List.take_succ_cons, List.map_cons, List.sum_cons] at this
        rwa [hs₀, hvalue])
    refine ⟨s', c', ?_, ?_⟩
    · simp only [lineSum, htotal, bind, Except.bind, liftDecimal, hadd, Except.mapError, hrest]
    · rw [hvalue', hs₀, hvalue, List.map_cons, List.sum_cons]

/-- Every running total of the lines is at most the sum of the lines' sizes. -/
theorem abs_sum_take_le (ls : List OrderLine) (k : Nat) :
    |((ls.take k).map OrderLine.totalValue).sum| ≤ (ls.map fun l => |l.totalValue|).sum := by
  calc |((ls.take k).map OrderLine.totalValue).sum|
      ≤ (((ls.take k).map OrderLine.totalValue).map abs).sum :=
        List.le_sum_of_subadditive abs abs_zero.le abs_add_le _
    _ = ((ls.take k).map fun l => |l.totalValue|).sum := by rw [List.map_map]; rfl
    _ ≤ (ls.map fun l => |l.totalValue|).sum :=
        ((List.take_sublist k ls).map _).sum_le_sum (by simp)

/-- The subtotal of lines priced in cents is their exact sum while every line total and running
total stays below `10 ^ 26`. -/
theorem Pricing.subtotal_cents {fee : Decimal} {ls : List OrderLine} {p : Pricing}
    (h : Pricing.ofLines fee ls = .ok p)
    (hprices : ∀ l ∈ ls, ∃ s c, l.unitPrice = .finite s c (-2))
    (hlines : ∀ l ∈ ls, |l.totalValue| < 10 ^ 26)
    (hrun : ∀ k, |((ls.take k).map OrderLine.totalValue).sum| < 10 ^ 26) :
    ∃ s c, p.subtotal = .finite s c (-2) ∧
      (signed s c : ℚ) / 100 = (ls.map OrderLine.totalValue).sum := by
  have hne : ls ≠ [] := by
    rintro rfl
    cases h
  obtain ⟨s', c', hsum', hsum_value⟩ := lineSum_zero_of_cents hne hprices hlines hrun
  unfold Pricing.ofLines at h
  simp only [List.isEmpty_eq_false_iff.mpr hne, Bool.false_eq_true, if_false] at h
  obtain ⟨sum, hsum, h⟩ := Service.exceptBind_ok h
  obtain ⟨subtotal, hsubtotal, h⟩ := Service.exceptBind_ok h
  -- the fee and the total follow; they do not change the subtotal
  obtain ⟨fee₁, -, h⟩ := Service.exceptBind_ok h
  obtain ⟨fee₂, -, h⟩ := Service.exceptBind_ok h
  obtain ⟨total, -, h⟩ := Service.exceptBind_ok h
  cases h
  rw [hsum'] at hsum
  cases hsum
  -- the sum already has two decimals, so quantizing keeps it
  have hc' : c' < 10 ^ 28 := by
    have := hrun ls.length
    rw [List.take_length, ← hsum_value] at this
    have := natAbs_lt_of_cents this
    rwa [natAbs_signed] at this
  rw [centsExponent, quantize_cents s' hc'] at hsubtotal
  cases hsubtotal
  exact ⟨s', c', rfl, hsum_value⟩

/-! ## Minor units -/

/-- Rounding to a whole number takes off the decimals an amount written with trailing zeros
has. -/
theorem toIntegral_mul_pow (s : Bool) (c k : Nat) :
    toIntegral (.finite s (c * 10 ^ k) (-k)) = .ok (.finite s c 0) := by
  simp only [toIntegral]
  by_cases hk : k = 0
  · subst hk
    simp
  · rw [if_neg (by omega)]
    have := roundAt_mul_pow c k (-k)
    rw [show -(k : Int) + k = 0 by omega] at this
    rw [this]

/-- The minor units of an amount in cents are its cents. -/
theorem minorUnits_cents (s : Bool) {c : Nat} (hc : c < 10 ^ 28) :
    minorUnits (.finite s c (-2)) = .ok (signed s c) := by
  obtain ⟨j, hj, hfit⟩ := fit_mul_pow s hc 2 (e := -2) (by decide) (by decide)
  have hmul : mul moneyContext (.finite s c (-2)) (ofInt 100) =
      .ok (.finite s (c * 10 ^ (2 - j)) (-(2 - j : Nat))) := by
    simp only [mul, propagateNaN, ofInt]
    rw [show (s != decide ((100 : Int) < 0)) = s by simp, show c * Int.natAbs 100 = c * 10 ^ 2 by
      norm_num, show (-2 : Int) + 0 = -2 by norm_num, hfit, show (-2 : Int) + j = -(2 - j : Nat) by
      omega]
  unfold minorUnits
  simp only [liftDecimal, hmul, Except.mapError, bind, Except.bind]
  rw [toIntegral_mul_pow]
  simp [toInt]

end TicketCheckout
