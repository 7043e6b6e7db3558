import DurableFlow.Proofs.Decimal.Limit
import DurableFlow.Proofs.Text.Class

/-!
Whole numbers read from texts of digits. Among the digits are superscripts and the like, which have no
place value. A text of digits is read exactly when all of them are decimal and they are not too many.
-/

namespace DurableFlow.Decimal

/-- The text can be read as a whole number: decimal digits of any script, and not too many. -/
def Readable (cs : List Char) : Prop := cs.all Text.isDecimal = true ∧ cs.length ≤ maxDigits

instance (cs : List Char) : Decidable (Readable cs) := inferInstanceAs (Decidable (_ ∧ _))

/-- The number that decimal digits stand for, the first of them with the highest place. -/
def ofText (cs : List Char) : Nat := ofDigits (cs.filterMap Text.decimalValue?)

/-- What is read from a text without underscores: the values of the decimal digits in front. -/
theorem takeDigits_eq {cs : List Char} (h : '_' ∉ cs) :
    takeDigits cs =
      ((cs.takeWhile Text.isDecimal).filterMap Text.decimalValue?, cs.dropWhile Text.isDecimal) := by
  induction cs with
  | nil => rfl
  | cons c cs ih =>
      rw [List.mem_cons, not_or] at h
      have hstep : takeDigits (c :: cs) =
          (Text.decimalValue? c).elim ([], c :: cs) fun d =>
            (d :: (takeDigits cs).1, (takeDigits cs).2) := by
        rw [takeDigits.eq_def]
        split
        · contradiction
        · next heq => exact absurd (List.cons.inj heq).1.symm h.1
        · next heq =>
            obtain ⟨rfl, rfl⟩ := List.cons.inj heq
            cases Text.decimalValue? _ <;> rfl
      rw [hstep, ih h.2]
      cases hvalue : Text.decimalValue? c with
      | none => simp [Text.isDecimal, hvalue]
      | some d => simp [Text.isDecimal, hvalue]

theorem dropWhile_eq_self {p : Char → Bool} {cs : List Char} (h : ∀ c ∈ cs, p c = false) :
    cs.dropWhile p = cs := by
  cases cs with
  | nil => rfl
  | cons c cs => exact List.dropWhile_cons_of_neg (by simp [h c List.mem_cons_self])

theorem trimWhite_eq_self {cs : List Char} (h : ∀ c ∈ cs, Text.isDigitLike c = true) :
    Text.trimWhite cs = cs := by
  have hwhite : ∀ c ∈ cs, Text.isWhite c = false := fun c hc => by
    rw [Text.isWhite, Text.not_isBlank_of_digit (.inr (h c hc)), Bool.false_and]
  rw [Text.trimWhite, Text.trimWhile, dropWhile_eq_self hwhite,
    dropWhile_eq_self fun c hc => hwhite c (List.mem_reverse.mp hc), List.reverse_reverse]

/-- A text of digits has no sign, and no underscore in front. -/
theorem digitRun_takeSign {cs : List Char} (h : ∀ c ∈ cs, Text.isDigitLike c = true) :
    (takeSign cs).1 = false ∧ digitRun (takeSign cs).2 = takeDigits cs := by
  have hmark : ∀ c, Text.isDigitLike c = false → ∀ rest, cs ≠ c :: rest := by
    rintro c hc rest rfl
    rw [h c List.mem_cons_self] at hc
    contradiction
  have hsign : takeSign cs = (false, cs) := by
    rw [takeSign.eq_def]
    split
    · next rest => exact absurd rfl (hmark '-' (by decide) rest)
    · next rest => exact absurd rfl (hmark '+' (by decide) rest)
    · rfl
  rw [hsign]
  refine ⟨rfl, ?_⟩
  rw [digitRun.eq_def]
  split
  · next rest heq => exact absurd heq (hmark '_' (by decide) rest)
  · rfl

theorem length_filterMap_decimalValue? {cs : List Char} (h : ∀ c ∈ cs, Text.isDecimal c = true) :
    (cs.filterMap Text.decimalValue?).length = cs.length :=
  List.filterMap_length_eq_length.mpr h

section Digits

variable {s : String} (h : ∀ c ∈ s.toList, Text.isDigitLike c = true)

include h

theorem takeDigits_digits : takeDigits s.toList =
    ((s.toList.takeWhile Text.isDecimal).filterMap Text.decimalValue?,
      s.toList.dropWhile Text.isDecimal) :=
  takeDigits_eq fun hc => absurd (h '_' hc) (by decide)

/-- A text of decimal digits, not too many, is read as the number that they stand for. -/
theorem readInt_of_readable (hne : s ≠ "") (hread : Readable s.toList) :
    readInt s = .ok (ofText s.toList) := by
  obtain ⟨hall, hlength⟩ := hread
  have hdecimal := List.all_eq_true.mp hall
  obtain ⟨hsign, hrun⟩ := digitRun_takeSign h
  obtain ⟨d, ds, hds⟩ : ∃ d ds, s.toList.filterMap Text.decimalValue? = d :: ds := by
    refine List.exists_cons_of_length_pos ?_
    rw [length_filterMap_decimalValue? hdecimal, List.length_pos_iff]
    exact fun hnil => hne (String.toList_inj.mp hnil)
  have hcount : (d :: ds).length ≤ maxDigits := by
    rwa [← hds, length_filterMap_decimalValue? hdecimal]
  have htake : takeDigits s.toList = (d :: ds, []) := by
    rw [takeDigits_digits h, List.takeWhile_eq_self_iff.mpr hdecimal,
      List.dropWhile_eq_nil_iff.mpr hdecimal, hds]
  simp only [readInt, trimWhite_eq_self h, hrun, htake, hsign, Nat.not_lt.mpr hcount, ofText, hds]
  rfl

theorem readInt_of_not_readable (hread : ¬Readable s.toList) :
    ∃ fault, readInt s = .error fault := by
  simp only [readInt, trimWhite_eq_self h, (digitRun_takeSign h).2, takeDigits_digits h]
  split
  · exact ⟨_, rfl⟩
  · exact ⟨_, rfl⟩
  · next ds rest heq =>
      obtain ⟨rfl, rfl⟩ := Prod.mk.inj heq
      split
      · exact ⟨_, rfl⟩
      · next hlength =>
          -- A digit without a place value is left over.
          have hrest : s.toList.dropWhile Text.isDecimal ≠ [] := by
            intro hnil
            have hdecimal := List.dropWhile_eq_nil_iff.mp hnil
            refine hread ⟨List.all_eq_true.mpr hdecimal, ?_⟩
            rw [List.takeWhile_eq_self_iff.mpr hdecimal,
              length_filterMap_decimalValue? hdecimal] at hlength
            exact Nat.not_lt.mp hlength
          rw [if_pos (by simpa using hrest)]
          exact ⟨_, rfl⟩

end Digits

end DurableFlow.Decimal
