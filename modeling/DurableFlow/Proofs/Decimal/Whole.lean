import DurableFlow.Proofs.Json.Number

/-!
Whole numbers as the names of properties. A number between brackets is rounded to the nearest binary
number, and the property that is read has the text of that number as its name. Main statement: a whole
number below `2 ^ 53` is held exactly, so that its name has the digits that it was written with.
-/

namespace DurableFlow.Decimal

open Binary64

/-- The text of a whole number as the name of a property: up to 21 digits are written without an
exponent. -/
def wholeText (mantissa : Nat) (exponent : Int) : List Char :=
  if mantissa = 0 then ['0']
  else
    let d := shortest mantissa exponent
    let point : Int := (Nat.toDigits 10 d.1).length + d.2
    let ds := significant d.1
    if point ≤ 21 then ds ++ zeros (point.toNat - ds.length)
    else
      ds.take 1 ++ (if ds.length ≤ 1 then [] else '.' :: ds.drop 1) ++
        'e' :: '+' :: Nat.toDigits 10 (point - 1).toNat

def keyText (n : Nat) : List Char :=
  match ofRatio false n 1 with
  | .finite _ m e _ => wholeText m e
  | _ => "Infinity".toList

/-! ### Numbers that are held exactly -/

/-- The mantissa of a whole number with less than 54 bits is shifted until it has 53 of them. -/
theorem exists_isNormal_whole {n : Nat} (hn : 0 < n) (h : n < 2 ^ 53) :
    ∃ k : Nat, IsNormal (n * 2 ^ k) (-(k : Int)) := by
  have hlow : 2 ^ n.log2 ≤ n := Nat.log2_self_le (Nat.ne_of_gt hn)
  have hhigh : n < 2 ^ (n.log2 + 1) := Nat.lt_log2_self
  have hlog : n.log2 ≤ 52 := by
    have := (Nat.pow_lt_pow_iff_right (by omega : 1 < 2)).mp (lt_of_le_of_lt hlow h)
    omega
  have hfull : 2 ^ n.log2 * 2 ^ (52 - n.log2) = 2 ^ 52 := by
    rw [← pow_add]
    congr 1
    omega
  have hlimit : 2 ^ (n.log2 + 1) * 2 ^ (52 - n.log2) = 2 ^ 53 := by
    rw [← pow_add]
    congr 1
    omega
  refine ⟨52 - n.log2, ?_, ?_, ?_, .inl ?_⟩
  · calc n * 2 ^ (52 - n.log2) < 2 ^ (n.log2 + 1) * 2 ^ (52 - n.log2) :=
          Nat.mul_lt_mul_of_pos_right hhigh (Nat.two_pow_pos _)
      _ = 2 ^ 53 := hlimit
  · simp only [minExponent]
    omega
  · simp only [maxExponent]
    omega
  · calc 2 ^ 52 = 2 ^ n.log2 * 2 ^ (52 - n.log2) := hfull.symm
      _ ≤ n * 2 ^ (52 - n.log2) := Nat.mul_le_mul_right _ hlow

theorem ratio_whole (n k : Nat) : ratio (n * 2 ^ k) (-k) = (n * 2 ^ k, 2 ^ k) := by
  rcases Nat.eq_zero_or_pos k with rfl | hk
  · simp [ratio]
  · simp [ratio, Nat.ne_of_gt hk]

theorem ofRatio_whole {n k : Nat} (h : IsNormal (n * 2 ^ k) (-k)) :
    ofRatio false n 1 = .finite false (n * 2 ^ k) (-k) h := by
  rw [← ofRatio_ratio false h, ratio_whole]
  exact ofRatio_congr false Nat.one_pos (Nat.two_pow_pos k) (by simp)

theorem exponent_pos_of_large {n m : Nat} {e : Int} {hnormal : IsNormal m e} (h : 2 ^ 53 ≤ n)
    (hround : ofRatio false n 1 = .finite false m e hnormal) : 0 < e := by
  have hn : 0 < n := lt_of_lt_of_le (by norm_num) h
  have hlog : 53 ≤ Int.log 2 ((n : ℚ) / (1 : Nat)) := by
    rw [Nat.cast_one, div_one, ← Int.zpow_le_iff_le_log (by omega) (by exact_mod_cast hn)]
    exact_mod_cast h
  have hexponent : 0 < exponentOf n 1 := by
    rw [exponentOf_eq hn Nat.one_pos]
    omega
  simp only [ofRatio, if_neg (Nat.ne_of_gt hn)] at hround
  generalize hp : (if _ = Nat.pow 2 53 then _ else _ : Nat × Int) = p at hround
  have hpos : 0 < p.2 := by
    rw [← hp]
    split
    · exact Int.lt_add_one_of_le (le_of_lt hexponent)
    · exact hexponent
  split at hround
  · exact (Binary64.finite.inj hround).2.2 ▸ hpos
  · contradiction

variable {n k : Nat}

/-- Only the number itself is rounded to a whole number with less than 54 bits. -/
theorem eq_of_ofRatio_whole {n' : Nat} (hn' : 0 < n') (hnormal : IsNormal (n * 2 ^ k) (-k))
    (hround : ofRatio false n' 1 = .finite false (n * 2 ^ k) (-k) hnormal) : n' = n := by
  have hsmall : n' < 2 ^ 53 := by
    by_contra hlarge
    have := exponent_pos_of_large (Nat.le_of_not_lt hlarge) hround
    omega
  obtain ⟨k', hnormal'⟩ := exists_isNormal_whole hn' hsmall
  rw [ofRatio_whole hnormal'] at hround
  obtain ⟨-, hm, he⟩ := Binary64.finite.inj hround
  obtain rfl : k' = k := by omega
  exact Nat.eq_of_mul_eq_mul_right (Nat.two_pow_pos k') hm

/-! ### Their shortest decimals -/

/-- A decimal without a fraction that reads back is the number itself. -/
theorem whole_of_readsBack {digits j : Nat} (hn : 0 < n) (hnormal : IsNormal (n * 2 ^ k) (-k))
    (h : readsBack (n * 2 ^ k) (-k) digits j = true) : digits * 10 ^ j = n := by
  have hround := ofDecimal_of_readsBack h hnormal false
  have hmantissa : 0 < n * 2 ^ k := Nat.mul_pos hn (Nat.two_pow_pos k)
  have hdigits : digits ≠ 0 := by
    rintro rfl
    rw [ofDecimal, if_pos rfl] at hround
    exact absurd (Binary64.finite.inj hround).2.1 (Nat.ne_of_lt hmantissa)
  have hlarge : ¬310 < ((Nat.toDigits 10 digits).length : Int) + j := by
    intro hlarge
    rw [ofDecimal, if_neg hdigits, if_pos hlarge] at hround
    contradiction
  rw [ofDecimal_eq_ofRatio false hdigits hlarge (by omega)] at hround
  have hwhole : ofRatio false (digits * 10 ^ j) 1 = .finite false (n * 2 ^ k) (-k) hnormal := by
    simpa using hround
  exact eq_of_ofRatio_whole (Nat.mul_pos (Nat.pos_of_ne_zero hdigits) (Nat.pow_pos (by omega)))
    hnormal hwhole

theorem scaleTen_zero (num den : Nat) : scaleTen num den 0 = (num, den) := by
  simp [scaleTen]

theorem onGrid?_zero (hnormal : IsNormal (n * 2 ^ k) (-k)) (hn : 0 < n) (h : n < 2 ^ 53) :
    onGrid? (n * 2 ^ k) (-k) 0 ≠ none := by
  have hbelow : readsBack (n * 2 ^ k) (-k) n 0 = true := by
    have hsize : (Nat.toDigits 10 n).length ≤ 16 :=
      length_toDigits_le (by omega) (lt_trans h (by norm_num))
    have hlarge : ¬310 < ((Nat.toDigits 10 n).length : Int) + 0 := by omega
    have hround := ofDecimal_eq_ofRatio false (Nat.ne_of_gt hn) hlarge (by omega)
    rw [Int.toNat_zero, neg_zero, Int.toNat_zero, pow_zero, mul_one, ofRatio_whole hnormal] at hround
    simp [readsBack, hround]
  have hdiv : n * 2 ^ k / 2 ^ k = n := Nat.mul_div_cancel n (Nat.two_pow_pos k)
  simp only [onGrid?, ratio_whole, scaleTen_zero, hdiv, hbelow]
  split <;> simp_all

/-- The grids are tried down to that of the whole numbers, and what is found is the number. -/
theorem shortestFrom_whole (hnormal : IsNormal (n * 2 ^ k) (-k)) (hn : 0 < n) (h : n < 2 ^ 53)
    {fuel j : Nat} (hfuel : j < fuel) :
    ∃ digits i : Nat, shortestFrom (n * 2 ^ k) (-k) fuel j = (digits, (i : Int)) ∧
      digits * 10 ^ i = n := by
  induction fuel generalizing j with
  | zero => contradiction
  | succ fuel ih =>
      rw [shortestFrom]
      split
      · next digits hgrid =>
          exact ⟨digits, j, rfl, whole_of_readsBack hn hnormal (readsBack_of_onGrid? hgrid)⟩
      · next hnone =>
          cases j with
          | zero => exact absurd hnone (onGrid?_zero hnormal hn h)
          | succ j =>
              have hj : ((j + 1 : Nat) : Int) - 1 = j := by omega
              rw [hj]
              exact ih (by omega)

theorem length_toDigits_mono {a b : Nat} (h : a ≤ b) :
    (Nat.toDigits 10 a).length ≤ (Nat.toDigits 10 b).length :=
  length_toDigits_le Nat.length_toDigits_pos
    (lt_of_le_of_lt h ((Nat.length_toDigits_le_iff (by omega) Nat.length_toDigits_pos).mp le_rfl))

theorem exists_magnitude_whole (hn : 0 < n) (h : n < 2 ^ 53) (den : Nat) :
    ∃ j : Nat, magnitude (n * den) den = j ∧ j < 17 := by
  have hsize : (Nat.toDigits 10 n).length ≤ 16 :=
    length_toDigits_le (by omega) (lt_trans h (by norm_num))
  have hpow {a : Nat} : a < 10 ^ (Nat.toDigits 10 a).length :=
    (Nat.length_toDigits_le_iff (by omega) Nat.length_toDigits_pos).mp le_rfl
  have hle : den ≤ n * den := Nat.le_mul_of_pos_left den hn
  have hlow := length_toDigits_mono hle
  have hhigh : (Nat.toDigits 10 (n * den)).length ≤
      (Nat.toDigits 10 n).length + (Nat.toDigits 10 den).length := by
    refine length_toDigits_le (Nat.add_pos_left Nat.length_toDigits_pos _) ?_
    rw [pow_add]
    exact Nat.mul_lt_mul'' hpow hpow
  simp only [magnitude]
  split
  · next hlt =>
      -- With as many digits in numerator and denominator there is nothing to correct.
      have hne : (Nat.toDigits 10 (n * den)).length ≠ (Nat.toDigits 10 den).length := by
        intro heq
        rw [heq, sub_self, scaleTen_zero] at hlt
        exact absurd hle (Nat.not_le_of_lt hlt)
      exact ⟨(Nat.toDigits 10 (n * den)).length - (Nat.toDigits 10 den).length - 1, by omega, by omega⟩
  · exact ⟨(Nat.toDigits 10 (n * den)).length - (Nat.toDigits 10 den).length, by omega, by omega⟩

/-- A whole number below `2 ^ 53` selects the property that is named by its digits. -/
theorem keyText_eq_toDigits (h : n < 2 ^ 53) : keyText n = Nat.toDigits 10 n := by
  rcases Nat.eq_zero_or_pos n with rfl | hn
  · simp [keyText, ofRatio, zero, wholeText]
  obtain ⟨k, hnormal⟩ := exists_isNormal_whole hn h
  obtain ⟨j, hj, hfuel⟩ := exists_magnitude_whole hn h (2 ^ k)
  obtain ⟨digits, i, hshortest, hvalue⟩ := shortestFrom_whole hnormal hn h hfuel
  have hshortest : shortest (n * 2 ^ k) (-k) = (digits, (i : Int)) := by
    simp only [shortest, ratio_whole, hj, hshortest]
  have hdigits : 0 < digits := Nat.pos_of_ne_zero fun h0 => by simp [h0] at hvalue; omega
  have htext : Nat.toDigits 10 n = Nat.toDigits 10 digits ++ zeros i := by
    rw [← hvalue, toDigits_mul_pow hdigits]
    rfl
  obtain ⟨z, hz⟩ := Json.exists_toDigits_eq digits
  have hlength := congrArg List.length htext
  have hzlength := congrArg List.length hz
  have hsize : (Nat.toDigits 10 n).length ≤ 16 :=
    length_toDigits_le (by omega) (lt_trans h (by norm_num))
  simp only [List.length_append, zeros, List.length_replicate] at hlength hzlength
  have hpoint : ((Nat.toDigits 10 digits).length : Int) + i ≤ 21 := by omega
  have htrail : (((Nat.toDigits 10 digits).length : Int) + i).toNat - (significant digits).length =
      z + i := by omega
  have hmantissa : n * 2 ^ k ≠ 0 := Nat.ne_of_gt (Nat.mul_pos hn (Nat.two_pow_pos k))
  rw [keyText, ofRatio_whole hnormal]
  simp only [wholeText, if_neg hmantissa, hshortest, if_pos hpoint, htrail]
  rw [htext, hz, List.append_assoc, zeros, zeros, zeros, List.replicate_append_replicate]

end DurableFlow.Decimal
