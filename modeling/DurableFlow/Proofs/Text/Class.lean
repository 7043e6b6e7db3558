import DurableFlow.Text.Digit
import DurableFlow.Text.Lines
import DurableFlow.Text.Word

/-!
Classes of characters. The ASCII classes are intervals of code points, and the others are tables of
such intervals. Line breaks are blanks, and words and digits of any script have no blanks.
-/

namespace DurableFlow.Text

theorem forall_mem_of_all {p : Char → Prop} [DecidablePred p] {cs : List Char}
    (h : cs.all (fun c => decide (p c)) = true) : ∀ c ∈ cs, p c := fun c hc =>
  of_decide_eq_true (List.all_eq_true.mp h c hc)

/-! ### ASCII characters -/

theorem between_iff (a b c : Char) :
    (a ≤ c && c ≤ b) = true ↔ a.toNat ≤ c.toNat ∧ c.toNat ≤ b.toNat := by
  simp only [Bool.and_eq_true, decide_eq_true_eq, Char.le_def, UInt32.le_iff_toNat_le]
  rfl

theorem isAsciiDigit_iff (c : Char) : isAsciiDigit c = true ↔ 48 ≤ c.toNat ∧ c.toNat ≤ 57 :=
  between_iff '0' '9' c

theorem isAsciiLower_iff (c : Char) : isAsciiLower c = true ↔ 97 ≤ c.toNat ∧ c.toNat ≤ 122 :=
  between_iff 'a' 'z' c

theorem isAsciiUpper_iff (c : Char) : isAsciiUpper c = true ↔ 65 ≤ c.toNat ∧ c.toNat ≤ 90 :=
  between_iff 'A' 'Z' c

theorem isAsciiLetter_iff (c : Char) : isAsciiLetter c = true ↔
    (97 ≤ c.toNat ∧ c.toNat ≤ 122) ∨ (65 ≤ c.toNat ∧ c.toNat ≤ 90) := by
  rw [isAsciiLetter, Bool.or_eq_true, isAsciiLower_iff, isAsciiUpper_iff]

theorem isAsciiWord_iff (c : Char) : isAsciiWord c = true ↔
    (97 ≤ c.toNat ∧ c.toNat ≤ 122) ∨ (65 ≤ c.toNat ∧ c.toNat ≤ 90) ∨
      (48 ≤ c.toNat ∧ c.toNat ≤ 57) ∨ c.toNat = 95 := by
  have hunderscore : c = '_' ↔ c.toNat = 95 := (Char.toNat_inj (d := '_')).symm
  rw [isAsciiWord, Bool.or_eq_true, Bool.or_eq_true, isAsciiLetter_iff, isAsciiDigit_iff,
    decide_eq_true_eq, hunderscore]
  omega

theorem toNat_ofNat {n : Nat} (h : n < 0xD800) : (Char.ofNat n).toNat = n := by
  have hvalid : n.isValidChar := .inl h
  rw [Char.ofNat, dif_pos hvalid]
  rfl

/-! ### Tables -/

theorem inRanges_cons (n lo hi : Nat) (rest : List (Nat × Nat)) :
    inRanges n ((lo, hi) :: rest) = true ↔ lo ≤ n ∧ (n ≤ hi ∨ inRanges n rest = true) := by
  rw [inRanges]
  split
  · simp only [Bool.false_eq_true, false_iff]
    omega
  · rename_i hle
    simp only [Bool.or_eq_true, decide_eq_true_eq, Nat.not_lt.mp hle, true_and]

theorem mem_codes_of_inRanges {n : Nat} {rs : List (Nat × Nat)} (h : inRanges n rs = true) :
    n ∈ rs.flatMap fun p => List.range' p.1 (p.2 + 1 - p.1) := by
  induction rs with
  | nil => cases h
  | cons p rs ih =>
      obtain ⟨hlow, hhigh⟩ := (inRanges_cons n p.1 p.2 rs).mp h
      rw [List.flatMap_cons, List.mem_append]
      rcases hhigh with hhigh | hrest
      · exact .inl (List.mem_range'_1.mpr ⟨hlow, by omega⟩)
      · exact .inr (ih hrest)

theorem isWord_of_isAsciiWord {c : Char} (h : isAsciiWord c = true) : isWord c = true := by
  have hhead : wordRanges = (48, 57) :: (65, 90) :: (95, 95) :: (97, 122) :: wordRanges.drop 4 := rfl
  rw [isAsciiWord_iff] at h
  rw [isWord, hhead, inRanges_cons, inRanges_cons, inRanges_cons, inRanges_cons]
  omega

/-! ### Blanks -/

theorem isBlank_of_isLineBreak {c : Char} (h : isLineBreak c = true) : isBlank c = true := by
  simp only [isLineBreak, Bool.or_eq_true, Bool.and_eq_true, decide_eq_true_eq] at h
  simp only [isBlank, blankRanges, inRanges_cons, inRanges_nil]
  omega

theorem not_isLineBreak_of_not_isBlank {c : Char} (h : isBlank c = false) :
    ¬isLineBreak c = true := by
  intro hbreak
  rw [isBlank_of_isLineBreak hbreak] at h
  cases h

theorem not_isBlank_of_code {p : Nat → Bool} (hp : (blankRanges.flatMap fun p =>
      List.range' p.1 (p.2 + 1 - p.1)).all (fun n => !p n) = true) {c : Char}
    (h : p c.toNat = true) : isBlank c = false := by
  rw [Bool.eq_false_iff]
  intro hblank
  have hcode := List.all_eq_true.mp hp _ (mem_codes_of_inRanges hblank)
  simp [h] at hcode

set_option maxRecDepth 2000 in
theorem not_isBlank_of_isWord {c : Char} (h : isWord c = true) : isBlank c = false :=
  not_isBlank_of_code (p := (inRanges · wordRanges)) (by decide) h

theorem not_isBlank_of_digit {c : Char} (h : isDecimal c = true ∨ isDigitLike c = true) :
    isBlank c = false := by
  rcases h with h | h
  · exact not_isBlank_of_code (p := fun n => (decimalValueFrom n decimalZeros).isSome)
      (by decide) h
  · exact not_isBlank_of_code (p := (inRanges · digitRanges)) (by decide) h

end DurableFlow.Text
