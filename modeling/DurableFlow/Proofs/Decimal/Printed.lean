import DurableFlow.Decimal.Shortest
import DurableFlow.Proofs.Decimal.Rounding

/-!
Printed decimals read back. A decimal is only chosen from a grid after it was seen to round to the
number, and the last resort, all digits of the number, has the very value of the number. Main
statement: the digits and exponent that are printed for a positive number round to that number.
-/

namespace DurableFlow.Decimal

open Binary64

variable {m : Nat} {e : Int}

theorem ofDecimal_of_readsBack {digits : Nat} {k : Int} (h : readsBack m e digits k = true)
    (hnormal : IsNormal m e) (negative : Bool) :
    ofDecimal negative digits k = .finite negative m e hnormal := by
  rw [readsBack] at h
  split at h
  · next n f hn hround =>
      obtain ⟨rfl, rfl⟩ : n = m ∧ f = e := by simpa using h
      rw [ofDecimal_withSign, hround]
      rfl
  · contradiction

theorem readsBack_of_onGrid? {k : Int} {digits : Nat} (h : onGrid? m e k = some digits) :
    readsBack m e digits k = true := by
  simp only [onGrid?] at h
  split at h
  · next hbelow habove =>
      obtain rfl := Option.some.inj h
      split
      · exact hbelow
      · exact habove
  · next hbelow _ => exact Option.some.inj h ▸ hbelow
  · next _ habove => exact Option.some.inj h ▸ habove
  · contradiction

/-! ### All digits -/

theorem length_toDigits_le {n k : Nat} (hk : 0 < k) (h : n < 10 ^ k) :
    (Nat.toDigits 10 n).length ≤ k :=
  (Nat.length_toDigits_le_iff (by omega) hk).mpr h

/-- All digits of a number that is not whole: a power of five takes the place of the power of two. -/
theorem ofDecimal_fraction (hm : 0 < m) {k : Nat} (hnormal : IsNormal m (-k)) (negative : Bool) :
    ofDecimal negative (m * 5 ^ k) (-k) = .finite negative m (-k) hnormal := by
  have hk : k ≤ 1074 := by
    have := hnormal.2.1
    simp only [minExponent] at this
    omega
  have hpos : 0 < m * 5 ^ k := Nat.mul_pos hm (Nat.pow_pos (by omega))
  have hlarge : (Nat.toDigits 10 (m * 5 ^ k)).length ≤ k + 310 := by
    apply length_toDigits_le (by omega)
    calc m * 5 ^ k < 2 ^ 53 * 10 ^ k :=
          Nat.mul_lt_mul_of_lt_of_le hnormal.1 (Nat.pow_le_pow_left (by omega) k)
            (Nat.pow_pos (by omega))
      _ ≤ 10 ^ 310 * 10 ^ k := Nat.mul_le_mul_right _ (by decide +kernel)
      _ = 10 ^ (k + 310) := by rw [← pow_add, add_comm]
  have hsmall : k ≤ (Nat.toDigits 10 (m * 5 ^ k)).length + 330 := by
    -- Fewer digits would put the number below the smallest power of two.
    by_contra hlt
    have hdigits : m * 5 ^ k < 10 ^ (k - 330) :=
      (Nat.length_toDigits_le_iff (by omega) (by omega)).mp (by omega)
    have htwo : 2 ^ k < 10 ^ 330 :=
      lt_of_le_of_lt (Nat.pow_le_pow_right (by omega) hk) (by decide +kernel)
    have : 10 ^ k < 10 ^ k := calc
      10 ^ k = 5 ^ k * 2 ^ k := Nat.mul_pow 5 2 k
      _ ≤ m * 5 ^ k * 2 ^ k := Nat.mul_le_mul_right _ (Nat.le_mul_of_pos_left _ hm)
      _ < 10 ^ (k - 330) * 10 ^ 330 :=
          Nat.mul_lt_mul_of_lt_of_le' hdigits htwo.le (Nat.two_pow_pos k)
      _ = 10 ^ k := by rw [← pow_add, Nat.sub_add_cancel (by omega)]
    exact lt_irrefl _ this
  rw [ofDecimal_eq_ofRatio negative (Nat.ne_of_gt hpos) (by omega) (by omega),
    ← ofRatio_ratio negative hnormal]
  apply ofRatio_congr negative (Nat.pow_pos (by omega)) (ratio_den_pos m _)
  rcases Nat.eq_zero_or_pos k with rfl | hk'
  · simp [ratio]
  · have hten : 10 ^ k = 5 ^ k * 2 ^ k := Nat.mul_pow 5 2 k
    simp [ratio, Nat.ne_of_gt hk', hten, mul_assoc]

theorem ofDecimal_whole {k : Nat} (hm : 0 < m) (hnormal : IsNormal m k) (negative : Bool) :
    ofDecimal negative (m * 2 ^ k) 0 = .finite negative m k hnormal := by
  have hk : k ≤ 971 := by
    have := hnormal.2.2.1
    simp only [maxExponent] at this
    omega
  have hlarge : (Nat.toDigits 10 (m * 2 ^ k)).length ≤ 310 := by
    apply length_toDigits_le (by omega)
    calc m * 2 ^ k < 2 ^ 53 * 2 ^ 971 :=
          Nat.mul_lt_mul_of_lt_of_le' hnormal.1 (Nat.pow_le_pow_right (by omega) hk)
            (Nat.two_pow_pos k)
      _ ≤ 10 ^ 310 := by decide +kernel
  have hpos : 0 < m * 2 ^ k := Nat.mul_pos hm (Nat.pow_pos (by omega))
  rw [ofDecimal_eq_ofRatio negative (Nat.ne_of_gt hpos) (by omega) (by omega),
    ← ofRatio_ratio negative hnormal]
  simp [ratio]

theorem ofDecimal_exact (hm : 0 < m) (hnormal : IsNormal m e) (negative : Bool) :
    ofDecimal negative (exact m e).1 (exact m e).2 = .finite negative m e hnormal := by
  rw [exact]
  split
  · next he =>
      obtain ⟨k, rfl⟩ := Int.eq_ofNat_of_zero_le he
      exact ofDecimal_whole hm hnormal negative
  · next he =>
      obtain ⟨k, rfl⟩ : ∃ k : Nat, e = -(k : Int) := ⟨(-e).toNat, by omega⟩
      simpa using ofDecimal_fraction hm hnormal negative

/-! ### The shortest decimal -/

theorem ofDecimal_shortestFrom (hm : 0 < m) (hnormal : IsNormal m e) (negative : Bool) (fuel : Nat)
    (k : Int) :
    ofDecimal negative (shortestFrom m e fuel k).1 (shortestFrom m e fuel k).2 =
      .finite negative m e hnormal := by
  induction fuel generalizing k with
  | zero => exact ofDecimal_exact hm hnormal negative
  | succ fuel ih =>
      rw [shortestFrom]
      split
      · next digits hgrid => exact ofDecimal_of_readsBack (readsBack_of_onGrid? hgrid) hnormal negative
      · exact ih (k - 1)

/-- The shortest decimal of a number rounds to the number. -/
theorem ofDecimal_shortest (hm : 0 < m) (hnormal : IsNormal m e) (negative : Bool) :
    ofDecimal negative (shortest m e).1 (shortest m e).2 = .finite negative m e hnormal :=
  ofDecimal_shortestFrom hm hnormal negative _ _

end DurableFlow.Decimal
