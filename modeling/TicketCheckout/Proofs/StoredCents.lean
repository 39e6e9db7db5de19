import TicketCheckout.Store.Amount
import Mathlib

/-!
# Stored cents read back

The store keeps an amount as the nearest binary64 number and reads it back rounded to cents. An
amount of `c` cents with `c / 100` below `2 ^ 46` comes back as it went in
(`readAmount_ofDecimal_cents`): binary64 keeps 53 significant bits, so below `2 ^ 46` the stored
number lies within `2 ^ -8` of the amount, nearer than half a cent.

The proof follows the number through its bits: the binade `ofRatio` picks for `c / 100`
(`normalExponent_cents`), the significand it rounds to (`ofDecimal_cents`), and the fields that
`ofFields` packs and the readers unpack again (`biased_ofFields`, `fraction_ofFields`).
-/

namespace TicketCheckout.Number.Binary64

/-! ## Rounding a quotient -/

theorem roundHalfEven_near (q d : Nat) (hd : 0 < d) :
    2 * (d * roundHalfEven q d) ≤ 2 * q + d ∧ 2 * q ≤ 2 * (d * roundHalfEven q d) + d := by
  have hqr := Nat.div_add_mod q d
  have hr := Nat.mod_lt q hd
  unfold roundHalfEven
  dsimp only
  generalize q / d = n at hqr ⊢
  generalize q % d = r at hqr hr ⊢
  subst hqr
  split_ifs <;> constructor <;> nlinarith

theorem roundHalfEven_eq {q d c : Nat} (hd : 0 < d) (hlo : 2 * (d * c) < 2 * q + d)
    (hhi : 2 * q < 2 * (d * c) + d) : roundHalfEven q d = c := by
  obtain ⟨hle, hge⟩ := roundHalfEven_near q d hd
  -- two integers within less than a unit of each other are equal
  have h1 : d * roundHalfEven q d < d * (c + 1) := by linarith
  have h2 : d * c < d * (roundHalfEven q d + 1) := by linarith
  have := Nat.lt_of_mul_lt_mul_left h1
  have := Nat.lt_of_mul_lt_mul_left h2
  omega

theorem roundHalfEven_zero (d : Nat) : roundHalfEven 0 d = 0 := by
  simp [roundHalfEven]

/-! ## Fields -/

/-- The bits of a value put together from a sign, an exponent field and a fraction. -/
theorem ofFields_bits (neg : Bool) {b f : Nat} (hb : b < 2048) (hf : f < 2 ^ 52) :
    (ofFields neg b f).bits.toNat = ((if neg then 2048 else 0) + b) * 2 ^ 52 + f := by
  have hb' : b.toUInt64.toNat = b := by
    rw [Nat.toUInt64_eq, UInt64.toNat_ofNat']
    omega
  have hf' : f.toUInt64.toNat = f := by
    rw [Nat.toUInt64_eq, UInt64.toNat_ofNat']
    omega
  have h52 : UInt64.toNat 52 % 64 = 52 := rfl
  have h63 : UInt64.toNat 63 % 64 = 63 := rfl
  have hlow : (b <<< 52) % 2 ^ 64 = 2 ^ 52 * b := by
    rw [Nat.shiftLeft_eq, Nat.mod_eq_of_lt (by omega), Nat.mul_comm]
  simp only [ofFields, UInt64.toNat_or, UInt64.toNat_shiftLeft, hb', hf', h52, h63, hlow]
  cases neg
  · -- no sign bit: the exponent field and the fraction occupy disjoint bits
    simp only [Bool.false_eq_true, if_false, UInt64.toNat_zero, Nat.zero_shiftLeft, Nat.zero_mod,
      Nat.zero_or]
    rw [← Nat.two_pow_add_eq_or_of_lt hf]
    ring
  · simp only [if_true, UInt64.toNat_one, Nat.shiftLeft_eq, Nat.one_mul]
    rw [Nat.mod_eq_of_lt (by norm_num)]
    have hsign := Nat.two_pow_add_eq_or_of_lt (show 2 ^ 52 * b < 2 ^ 63 by omega) 1
    rw [Nat.mul_one] at hsign
    rw [← hsign, show 2 ^ 63 + 2 ^ 52 * b = 2 ^ 52 * (2048 + b) by ring,
      ← Nat.two_pow_add_eq_or_of_lt hf]
    ring

section Fields

variable (neg : Bool) {b f : Nat} (hb : b < 2048) (hf : f < 2 ^ 52)
include hb hf

theorem negative_ofFields : (ofFields neg b f).negative = neg := by
  have hsign : ((ofFields neg b f).bits >>> 63).toNat = if neg then 1 else 0 := by
    rw [UInt64.toNat_shiftRight, ofFields_bits neg hb hf, Nat.shiftRight_eq_div_pow]
    cases neg <;> simp <;> omega
  unfold negative
  cases neg <;> simp [← UInt64.toNat_inj, hsign]

theorem biased_ofFields : (ofFields neg b f).biased = b := by
  unfold biased
  rw [UInt64.toNat_and, UInt64.toNat_shiftRight, ofFields_bits neg hb hf, Nat.shiftRight_eq_div_pow]
  show _ &&& (2 ^ 11 - 1) = b
  rw [Nat.and_two_pow_sub_one_eq_mod]
  cases neg <;> simp <;> omega

theorem fraction_ofFields : (ofFields neg b f).fraction = f := by
  unfold fraction
  rw [UInt64.toNat_and, ofFields_bits neg hb hf]
  show _ &&& (2 ^ 52 - 1) = f
  rw [Nat.and_two_pow_sub_one_eq_mod]
  cases neg <;> simp <;> omega

theorem isInfinite_ofFields (hb' : b < 2047) : (ofFields neg b f).isInfinite = false := by
  simp [isInfinite, biased_ofFields neg hb hf]
  omega

theorem isZero_ofFields : (ofFields neg b f).isZero = (b == 0 && f == 0) := by
  simp [isZero, biased_ofFields neg hb hf, fraction_ofFields neg hb hf]

/-- The cents of a normal number below `2 ^ 53`: its significand over the power of two its
exponent gives, rounded. -/
theorem scaledRound_ofFields (hb1 : 1 ≤ b) (hb2 : b < 1075) :
    (ofFields neg b f).scaledRound 2 = roundHalfEven ((f + 2 ^ 52) * 100) (2 ^ (1075 - b)) := by
  have hbiased := biased_ofFields neg hb hf
  unfold scaledRound toRatio exponent significand
  simp only [hbiased, fraction_ofFields neg hb hf, show (b == 0) = false by simpa using (by omega),
    Bool.false_eq_true, if_false, Nat.pow_eq]
  rw [if_neg (by omega)]
  dsimp only
  rw [show (-((b : Int) - 1075)).toNat = 1075 - b by omega]

end Fields

/-! ## Cents -/

/-- The binade of an amount of `c` cents: `c / 100 × 2 ^ k` has 53 bits. -/
theorem normalExponent_cents {c : Nat} (h1 : 1 ≤ c) (h2 : c < 2 ^ 53) :
    ∃ k : Nat, normalExponent c 100 = -(k : Int) ∧ 100 * 2 ^ 52 ≤ c * 2 ^ k ∧
      c * 2 ^ k < 100 * 2 ^ 53 := by
  have hL1 : 2 ^ Nat.log2 c ≤ c := Nat.log2_self_le (by omega)
  have hL2 : c < 2 ^ (Nat.log2 c + 1) := Nat.lt_log2_self
  have hL : Nat.log2 c < 53 := (Nat.log2_lt (by omega)).2 h2
  have hlog : Nat.log2 100 = 6 := by decide
  unfold normalExponent
  rw [hlog]
  generalize Nat.log2 c = L at hL1 hL2 hL ⊢
  -- the first estimate scales `c` into [2 ^ 58, 2 ^ 59), a hundred times the target binade
  have hX1 : 2 ^ 58 ≤ c * 2 ^ (58 - L) := calc
    2 ^ 58 = 2 ^ L * 2 ^ (58 - L) := by rw [← pow_add]; congr 1; omega
    _ ≤ c * 2 ^ (58 - L) := Nat.mul_le_mul_right _ hL1
  have hX2 : c * 2 ^ (58 - L) < 2 ^ 59 := calc
    c * 2 ^ (58 - L) < 2 ^ (L + 1) * 2 ^ (58 - L) := Nat.mul_lt_mul_of_pos_right hL2 (by positivity)
    _ = 2 ^ 59 := by rw [← pow_add]; congr 1; omega
  have hfloor : ∀ k : Nat, scaledFloor c 100 (-(k : Int)) = c * 2 ^ k / 100 := by
    intro k
    unfold scaledFloor
    split
    · obtain rfl : k = 0 := by omega
      simp
    · simp only [neg_neg, Int.toNat_natCast, Nat.pow_eq]
  have he0 : (L : Int) - ((6 : Nat) : Int) - 52 = -((58 - L : Nat) : Int) := by omega
  simp only [he0, hfloor, Nat.pow_eq]
  rw [if_neg (by omega)]
  split
  · -- one binade lower: twice the estimate
    refine ⟨59 - L, by omega, ?_⟩
    have hdouble : c * 2 ^ (59 - L) = 2 * (c * 2 ^ (58 - L)) := by
      rw [show 59 - L = (58 - L) + 1 by omega, pow_succ]
      ring
    rw [hdouble]
    omega
  · exact ⟨58 - L, rfl, by omega, by omega⟩

/-- A nonzero amount of `c` cents below `2 ^ 46` is stored as a normal number `m / 2 ^ k` that
lies within less than half a unit of `c / 100` once multiplied by a hundred. -/
theorem ofDecimal_cents (s : Bool) {c : Nat} (h1 : 1 ≤ c) (h2 : c < 100 * 2 ^ 46) :
    ∃ m k, 2 ^ 52 ≤ m ∧ m < 2 ^ 53 ∧ 1 ≤ k ∧ k < 1075 ∧
      ofDecimal s c (-2) = ofFields s (1075 - k) (m - 2 ^ 52) ∧
      2 * (2 ^ k * c) < 2 * (m * 100) + 2 ^ k ∧ 2 * (m * 100) < 2 * (2 ^ k * c) + 2 ^ k := by
  obtain ⟨k, hk, hlo, hhi⟩ := normalExponent_cents h1 (by omega)
  -- the amount is below 2 ^ 46, so its binade puts at least seven bits below the point
  have hk7 : 7 ≤ k := by
    have : 2 ^ 52 < 2 ^ (46 + k) := by
      rw [pow_add]
      nlinarith
    have := (Nat.pow_lt_pow_iff_right (by norm_num)).1 this
    omega
  have hk60 : k < 60 := by
    have : 2 ^ k < 2 ^ 60 := by nlinarith
    exact (Nat.pow_lt_pow_iff_right (by norm_num)).1 this
  have hpow : 128 ≤ 2 ^ k := calc
    128 = 2 ^ 7 := by norm_num
    _ ≤ 2 ^ k := Nat.pow_le_pow_right (by norm_num) hk7
  obtain ⟨hnear1, hnear2⟩ := roundHalfEven_near (c * 2 ^ k) 100 (by norm_num)
  have hratio : ofDecimal s c (-2) = ofRatio ⟨s, c, 100⟩ := by
    have hdigits : ¬ ((-2 : Int) + ((Nat.toDigits 10 c).length : Int) < -400) := by omega
    unfold ofDecimal
    rw [if_neg (by simp; omega), if_neg (by omega), if_neg hdigits, if_neg (by omega)]
    rfl
  rw [hratio]
  unfold ofRatio
  dsimp only
  simp only [show (c == 0) = false by simpa using (show c ≠ 0 by omega), Bool.false_eq_true,
    show (100 == 0) = false by rfl, Bool.false_or, if_false, hk,
    show max (-(k : Int)) (-1074) = -(k : Int) by omega,
    show ¬ ((0 : Int) ≤ -(k : Int)) by omega, neg_neg, Int.toNat_natCast, Nat.pow_eq]
  generalize roundHalfEven (c * 2 ^ k) 100 = m at hnear1 hnear2
  by_cases hcarry : m = 2 ^ 53
  · -- rounding carried into the next binade: the significand 2 ^ 52 one exponent up
    subst hcarry
    have hhalf : c * 2 ^ k = 2 * (c * 2 ^ (k - 1)) := by
      rw [show k = (k - 1) + 1 by omega, pow_succ]
      simp only [Nat.add_sub_cancel]
      ring
    have hpow' : 2 ^ k = 2 * 2 ^ (k - 1) := by
      rw [show k = (k - 1) + 1 by omega, pow_succ]
      simp only [Nat.add_sub_cancel]
      ring
    have hcomm : 2 ^ (k - 1) * c = c * 2 ^ (k - 1) := Nat.mul_comm _ _
    refine ⟨2 ^ 52, k - 1, le_refl _, by norm_num, by omega, by omega, ?_, by omega, by omega⟩
    simp only [beq_self_eq_true, if_true]
    rw [if_neg (by omega), if_neg (by omega)]
    congr 1
    omega
  · have hm : m < 2 ^ 53 := by omega
    have hcomm : 2 ^ k * c = c * 2 ^ k := Nat.mul_comm _ _
    refine ⟨m, k, by omega, hm, by omega, by omega, ?_, by omega, by omega⟩
    simp only [show (m == 2 ^ 53) = false by simpa using hcarry, Bool.false_eq_true, if_false]
    rw [if_neg (by omega), if_neg (by omega)]
    congr 1
    omega

/-- A zero of either sign has no cents. -/
theorem scaledRound_zero (s : Bool) : (zero s).scaledRound 2 = 0 := by
  have hb : 0 < 2048 := by norm_num
  have hf : 0 < 2 ^ 52 := by norm_num
  unfold zero scaledRound toRatio exponent significand
  simp only [biased_ofFields s hb hf, fraction_ofFields s hb hf, beq_self_eq_true, if_true]
  rw [if_neg (by norm_num)]
  show roundHalfEven (0 * Nat.pow 10 2) _ = 0
  rw [Nat.zero_mul]
  exact roundHalfEven_zero _

end TicketCheckout.Number.Binary64

namespace TicketCheckout.Store

open Number Binary64

/-- A stored zero of either sign reads back as zero. -/
theorem readAmount_zero (s : Bool) : readAmount (zero s) = .finite false 0 (-2) := by
  have hb : 0 < 2048 := by norm_num
  have hf : 0 < 2 ^ 52 := by norm_num
  unfold readAmount
  rw [show zero s = ofFields s 0 0 from rfl, isInfinite_ofFields s hb hf (by norm_num),
    isZero_ofFields s hb hf, ← show zero s = ofFields s 0 0 from rfl, scaledRound_zero]
  simp

/-- An amount of `c` cents below `2 ^ 46` reads back as it was stored; a negative zero reads back
as zero. -/
theorem readAmount_ofDecimal_cents (s : Bool) {c : Nat} (hc : c < 100 * 2 ^ 46) :
    readAmount (ofDecimal s c (-2)) = .finite (s && c != 0) c (-2) := by
  by_cases hzero : c = 0
  · subst hzero
    have hx : ofDecimal s 0 (-2) = zero s := by simp [ofDecimal]
    rw [hx, readAmount_zero]
    simp
  · obtain ⟨m, k, hm1, hm2, hk1, hk2, hx, hlo, hhi⟩ := ofDecimal_cents s (by omega) hc
    have hb : 1075 - k < 2048 := by omega
    have hf : m - 2 ^ 52 < 2 ^ 52 := by omega
    rw [hx]
    unfold readAmount
    rw [isInfinite_ofFields s hb hf (by omega), scaledRound_ofFields s hb hf (by omega) (by omega)]
    simp only [Bool.false_eq_true, if_false, negative_ofFields s hb hf, isZero_ofFields s hb hf,
      show (1075 - k == 0) = false by simpa using (by omega), Bool.false_and, Bool.not_false,
      show (c != 0) = true by simpa using hzero]
    rw [show m - 2 ^ 52 + 2 ^ 52 = m by omega, show 1075 - (1075 - k) = k by omega,
      roundHalfEven_eq (by positivity) hlo hhi]

end TicketCheckout.Store
