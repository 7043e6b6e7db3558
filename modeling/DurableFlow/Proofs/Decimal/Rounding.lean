import DurableFlow.Decimal.Binary64
import Mathlib.Algebra.Order.Field.Power
import Mathlib.Data.Int.Log
import Mathlib.Data.Nat.Digits.Lemmas
import Mathlib.Data.Rat.Floor
import Mathlib.Tactic.FieldSimp
import Mathlib.Tactic.Ring

/-!
Rounding to binary numbers. The nearest number depends only on the value of the fraction or decimal
that is rounded, not on how that value is spelled: the mantissa and exponent come from the binary
logarithm of the value and from a quotient. Main statements: a number in its one form is the rounding
of its own value, and a decimal may be extended by zeros before it is rounded.
-/

namespace DurableFlow.Binary64

/-! ### Fractions -/

theorem roundQuotient_mul (num den : Nat) {k : Nat} (hk : 0 < k) :
    roundQuotient (num * k) (den * k) = roundQuotient num den := by
  have hq : num * k / (den * k) = num / den := Nat.mul_div_mul_right num den hk
  have hr : num * k % (den * k) = num % den * k := Nat.mul_mod_mul_right k num den
  have hlt : den * k < 2 * (num % den * k) ↔ den < 2 * (num % den) := by
    rw [← Nat.mul_assoc]
    exact Nat.mul_lt_mul_right hk
  have heq : 2 * (num % den * k) = den * k ↔ 2 * (num % den) = den := by
    rw [← Nat.mul_assoc]
    exact Nat.mul_left_inj (Nat.ne_of_gt hk)
  simp only [roundQuotient, hq, hr, Bool.or_eq_true, decide_eq_true_eq, Bool.and_eq_true, beq_iff_eq,
    hlt, heq]

theorem roundQuotient_exact (n : Nat) {den : Nat} (hden : 0 < den) :
    roundQuotient (n * den) den = n := by
  simp [roundQuotient, hden, Nat.ne_of_lt]

theorem scaleTwo_mul (num den k : Nat) (e : Int) :
    scaleTwo (num * k) (den * k) e = ((scaleTwo num den e).1 * k, (scaleTwo num den e).2 * k) := by
  simp only [scaleTwo]
  split <;> simp [Nat.mul_right_comm]

theorem scaleTwo_den_pos {den : Nat} (hden : 0 < den) (num : Nat) (e : Int) :
    0 < (scaleTwo num den e).2 := by
  simp only [scaleTwo]
  split
  · exact Nat.mul_pos hden (Nat.pow_pos (by omega))
  · exact hden

theorem scaleTwo_value (num den : Nat) (e : Int) :
    ((scaleTwo num den e).1 : ℚ) / (scaleTwo num den e).2 = num / den / 2 ^ e := by
  simp only [scaleTwo]
  split
  · next he =>
      obtain ⟨n, rfl⟩ := Int.eq_ofNat_of_zero_le he
      simp [div_div]
  · next he =>
      obtain ⟨n, rfl⟩ : ∃ n : Nat, e = -(n : Int) := ⟨(-e).toNat, by omega⟩
      simp [zpow_neg, div_inv_eq_mul, mul_div_right_comm]

/-- The binary logarithms of numerator and denominator give that of the value up to one. -/
theorem log_quotient_bounds {num den : Nat} (hnum : 0 < num) (hden : 0 < den) :
    (num.log2 : Int) - den.log2 - 1 ≤ Int.log 2 (num / den : ℚ) ∧
      Int.log 2 (num / den : ℚ) < (num.log2 : Int) - den.log2 + 1 := by
  have hden' : (0 : ℚ) < den := by exact_mod_cast hden
  have hpos : (0 : ℚ) < num / den := by positivity
  have hnumLow : (2 : ℚ) ^ num.log2 ≤ num := by
    exact_mod_cast Nat.log2_self_le (Nat.ne_of_gt hnum)
  have hnumHigh : (num : ℚ) < 2 ^ (num.log2 + 1) := by exact_mod_cast Nat.lt_log2_self
  have hdenLow : (2 : ℚ) ^ den.log2 ≤ den := by
    exact_mod_cast Nat.log2_self_le (Nat.ne_of_gt hden)
  have hdenHigh : (den : ℚ) < 2 ^ (den.log2 + 1) := by exact_mod_cast Nat.lt_log2_self
  constructor
  · rw [← Int.zpow_le_iff_le_log (by omega) hpos, le_div_iff₀ hden']
    calc ((2 : Nat) : ℚ) ^ ((num.log2 : Int) - den.log2 - 1) * den
        ≤ 2 ^ ((num.log2 : Int) - den.log2 - 1) * 2 ^ (den.log2 + 1) := by
          push_cast
          gcongr
      _ = 2 ^ num.log2 := by
          rw [← zpow_natCast, ← zpow_add₀ (by norm_num), ← zpow_natCast]
          congr 1
          push_cast
          ring
      _ ≤ num := hnumLow
  · rw [← Int.lt_zpow_iff_log_lt (by omega) hpos, div_lt_iff₀ hden']
    calc (num : ℚ) < 2 ^ (num.log2 + 1) := hnumHigh
      _ = 2 ^ ((num.log2 : Int) - den.log2 + 1) * 2 ^ den.log2 := by
          rw [← zpow_natCast, ← zpow_natCast 2 den.log2, ← zpow_add₀ (by norm_num)]
          congr 1
          push_cast
          ring
      _ ≤ ((2 : Nat) : ℚ) ^ ((num.log2 : Int) - den.log2 + 1) * den := by
          push_cast
          gcongr

/-- The exponent is read off the binary logarithm of the value. -/
theorem exponentOf_eq {num den : Nat} (hnum : 0 < num) (hden : 0 < den) :
    exponentOf num den = max (Int.log 2 (num / den : ℚ) - 52) minExponent := by
  have hden' : (0 : ℚ) < den := by exact_mod_cast hden
  have hpos : (0 : ℚ) < num / den := by positivity
  obtain ⟨hlow, hhigh⟩ := log_quotient_bounds hnum hden
  -- The estimate from the logarithms is right, or one too small when the quotient has 54 bits.
  have htest : ∀ e : Int, (scaleTwo num den e).1 / (scaleTwo num den e).2 < Nat.pow 2 53 ↔
      Int.log 2 (num / den : ℚ) < e + 53 := by
    intro e
    have hq := scaleTwo_den_pos hden num e
    have hq' : (0 : ℚ) < (scaleTwo num den e).2 := by exact_mod_cast hq
    rw [Nat.div_lt_iff_lt_mul hq, ← Int.lt_zpow_iff_log_lt (by omega) hpos, add_comm e,
      zpow_add₀ (by norm_num), ← div_lt_iff₀ (by positivity), Nat.cast_ofNat, ← scaleTwo_value,
      div_lt_iff₀ hq']
    norm_cast
  simp only [exponentOf, htest]
  split <;> congr 1 <;> omega

theorem ofRatio_mul (negative : Bool) (num : Nat) {den k : Nat} (hden : 0 < den) (hk : 0 < k) :
    ofRatio negative (num * k) (den * k) = ofRatio negative num den := by
  rcases Nat.eq_zero_or_pos num with rfl | hnum
  · simp [ofRatio]
  · have hexponent : exponentOf (num * k) (den * k) = exponentOf num den := by
      have hk' : (k : ℚ) ≠ 0 := by exact_mod_cast Nat.ne_of_gt hk
      rw [exponentOf_eq (Nat.mul_pos hnum hk) (Nat.mul_pos hden hk), exponentOf_eq hnum hden]
      push_cast
      rw [mul_div_mul_right _ _ hk']
    have hne : num * k ≠ 0 := Nat.ne_of_gt (Nat.mul_pos hnum hk)
    simp only [ofRatio, hexponent, scaleTwo_mul, roundQuotient_mul _ _ hk, hne, Nat.ne_of_gt hnum,
      if_false]

theorem ofRatio_congr (negative : Bool) {num den num' den' : Nat} (hden : 0 < den) (hden' : 0 < den')
    (h : num * den' = num' * den) : ofRatio negative num den = ofRatio negative num' den' := by
  rw [← ofRatio_mul negative num hden hden', ← ofRatio_mul negative num' hden' hden, h,
    Nat.mul_comm den]

/-! ### Numbers in their one form -/

theorem ratio_den_pos (m : Nat) (e : Int) : 0 < (ratio m e).2 := by
  simp only [ratio]
  split
  · exact Nat.one_pos
  · exact Nat.pow_pos (by omega)

theorem ratio_value (m : Nat) (e : Int) : ((ratio m e).1 : ℚ) / (ratio m e).2 = m * 2 ^ e := by
  simp only [ratio]
  split
  · next he =>
      obtain ⟨n, rfl⟩ := Int.eq_ofNat_of_zero_le he
      simp
  · next he =>
      obtain ⟨n, rfl⟩ : ∃ n : Nat, e = -(n : Int) := ⟨(-e).toNat, by omega⟩
      simp [zpow_neg, div_eq_mul_inv]

theorem ratio_num_pos {m : Nat} (hm : 0 < m) (e : Int) : 0 < (ratio m e).1 := by
  simp only [ratio]
  split
  · exact Nat.mul_pos hm (Nat.pow_pos (by omega))
  · exact hm

theorem exponentOf_ratio {m : Nat} {e : Int} (hm : 0 < m) (h : IsNormal m e) :
    exponentOf (ratio m e).1 (ratio m e).2 = e := by
  obtain ⟨hlt, hmin, -, hfull⟩ := h
  have hvalue : (0 : ℚ) < m * 2 ^ e := by positivity
  have hhigh : Int.log 2 (m * 2 ^ e : ℚ) < 53 + e := by
    have hm' : (m : ℚ) < 2 ^ 53 := by exact_mod_cast hlt
    rw [← Int.lt_zpow_iff_log_lt (by omega) hvalue, Nat.cast_ofNat, zpow_add₀ (by norm_num)]
    gcongr
    exact hm'
  have hlow : Nat.pow 2 52 ≤ m → 52 + e ≤ Int.log 2 (m * 2 ^ e : ℚ) := by
    intro hm
    have hm' : (2 : ℚ) ^ 52 ≤ m := by exact_mod_cast hm
    rw [← Int.zpow_le_iff_le_log (by omega) hvalue, Nat.cast_ofNat, zpow_add₀ (by norm_num)]
    gcongr
    exact hm'
  rw [exponentOf_eq (ratio_num_pos hm e) (ratio_den_pos m e), ratio_value]
  rcases hfull with hfull | rfl
  · have := hlow hfull
    omega
  · omega

theorem scaleTwo_ratio (m : Nat) (e : Int) :
    ∃ k, 0 < k ∧ scaleTwo (ratio m e).1 (ratio m e).2 e = (m * k, k) := by
  by_cases he : 0 ≤ e
  · exact ⟨Nat.pow 2 e.toNat, Nat.pow_pos (by omega), by simp [ratio, scaleTwo, he]⟩
  · exact ⟨Nat.pow 2 (-e).toNat, Nat.pow_pos (by omega), by simp [ratio, scaleTwo, he]⟩

theorem ofRatio_ratio (negative : Bool) {m : Nat} {e : Int} (h : IsNormal m e) :
    ofRatio negative (ratio m e).1 (ratio m e).2 = .finite negative m e h := by
  rcases Nat.eq_zero_or_pos m with rfl | hm
  · obtain rfl : e = minExponent := h.2.2.2.resolve_left (by decide)
    rfl
  · obtain ⟨k, hk, hscale⟩ := scaleTwo_ratio m e
    have hlt : m ≠ Nat.pow 2 53 := Nat.ne_of_lt h.1
    simp only [ofRatio, Nat.ne_of_gt (ratio_num_pos hm e), exponentOf_ratio hm h, hscale,
      roundQuotient_exact m hk, if_neg hlt, dif_pos h, if_false]

/-! ### Decimals -/

def withSign (negative : Bool) : Binary64 → Binary64
  | .nan => .nan
  | .infinite _ => .infinite negative
  | .finite _ m e h => .finite negative m e h

/-- The sign plays no part in rounding. -/
theorem ofRatio_withSign (negative : Bool) (num den : Nat) :
    ofRatio negative num den = (ofRatio false num den).withSign negative := by
  simp only [ofRatio]
  split
  · rfl
  · generalize (if _ = Nat.pow 2 53 then _ else _ : Nat × Int) = p
    split <;> rfl

theorem ofDecimal_withSign (negative : Bool) (digits : Nat) (exponent : Int) :
    ofDecimal negative digits exponent = (ofDecimal false digits exponent).withSign negative := by
  simp only [ofDecimal]
  split_ifs
  · rfl
  · rfl
  · rfl
  · exact ofRatio_withSign negative _ _
  · exact ofRatio_withSign negative _ _

theorem toDigits_mul_pow {n : Nat} (hn : 0 < n) (k : Nat) :
    Nat.toDigits 10 (n * 10 ^ k) = Nat.toDigits 10 n ++ List.replicate k '0' := by
  induction k with
  | zero => simp
  | succ k ih =>
      have hpos : 0 < n * 10 ^ k := Nat.mul_pos hn (Nat.pow_pos (by omega))
      rw [pow_succ, ← mul_assoc, Nat.toDigits_of_base_le (by omega) (by omega),
        Nat.mul_div_cancel _ (by omega), Nat.mul_mod_left, ih, List.replicate_succ', List.append_assoc]
      rfl

/-- A decimal within the size limits is rounded as the fraction that it stands for. -/
theorem ofDecimal_eq_ofRatio (negative : Bool) {digits : Nat} {exponent : Int} (hdigits : digits ≠ 0)
    (hlarge : ¬310 < ((Nat.toDigits 10 digits).length : Int) + exponent)
    (hsmall : ¬((Nat.toDigits 10 digits).length : Int) + exponent < -330) :
    ofDecimal negative digits exponent =
      ofRatio negative (digits * 10 ^ exponent.toNat) (10 ^ (-exponent).toNat) := by
  simp only [ofDecimal, if_neg hdigits, if_neg hlarge, if_neg hsmall]
  split
  · next he => rw [show (-exponent).toNat = 0 by omega]; rfl
  · next he => rw [show exponent.toNat = 0 by omega, pow_zero, mul_one]; rfl

theorem ofDecimal_zeros (negative : Bool) (digits : Nat) (exponent : Int) (k : Nat) :
    ofDecimal negative (digits * 10 ^ k) (exponent - k) = ofDecimal negative digits exponent := by
  rcases Nat.eq_zero_or_pos digits with rfl | hdigits
  · simp [ofDecimal]
  · have hdigits' : digits * 10 ^ k ≠ 0 := Nat.ne_of_gt (Nat.mul_pos hdigits (Nat.pow_pos (by omega)))
    have hsize : ((Nat.toDigits 10 (digits * 10 ^ k)).length : Int) + (exponent - k) =
        (Nat.toDigits 10 digits).length + exponent := by
      rw [toDigits_mul_pow hdigits, List.length_append, List.length_replicate]
      push_cast
      ring
    by_cases hlarge : 310 < ((Nat.toDigits 10 digits).length : Int) + exponent
    · simp only [ofDecimal, hsize, if_neg hdigits', if_neg (Nat.ne_of_gt hdigits), if_pos hlarge]
    by_cases hsmall : ((Nat.toDigits 10 digits).length : Int) + exponent < -330
    · simp only [ofDecimal, hsize, if_neg hdigits', if_neg (Nat.ne_of_gt hdigits), if_neg hlarge,
        if_pos hsmall]
    rw [ofDecimal_eq_ofRatio negative hdigits' (by rwa [hsize]) (by rwa [hsize]),
      ofDecimal_eq_ofRatio negative (Nat.ne_of_gt hdigits) hlarge hsmall]
    apply ofRatio_congr negative (Nat.pow_pos (by omega)) (Nat.pow_pos (by omega))
    simp only [mul_assoc, ← pow_add]
    congr 2
    omega

end DurableFlow.Binary64
