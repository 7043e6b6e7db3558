import DurableFlow.Proofs.Text.Class
import DurableFlow.Step.Name
import DurableFlow.Text.Case
import Mathlib.Data.List.Basic

/-!
The case of ASCII characters. In the tables of the case mappings the ASCII letters have a run of their own,
and all others stand behind it; so the lower case of a text without capitals is the text, and the upper case
of an ASCII text is found letter by letter.
-/

namespace DurableFlow.Text

theorem shifted_of_lt {n : Nat} {table : List (Nat × Nat × Nat × Int)} (h : ∀ run ∈ table, n < run.1) :
    shifted n table = n := by
  induction table with
  | nil => rfl
  | cons run table ih =>
      have hrun := h run List.mem_cons_self
      rw [shifted, if_neg (by simp; omega), ih fun r hr => h r (List.mem_cons_of_mem run hr)]

/-- Of the characters below the second run, those of the first run are shifted. -/
theorem shifted_cons_of_lt {n first last bound : Nat} {shift : Int}
    {table : List (Nat × Nat × Nat × Int)} (hn : n < bound)
    (htable : table.all (fun run => decide (bound ≤ run.1)) = true) :
    shifted n ((first, last, 1, shift) :: table) =
      if first ≤ n ∧ n ≤ last then (n + shift).toNat else n := by
  have hbound : ∀ run ∈ table, n < run.1 := fun run hrun =>
    Nat.lt_of_lt_of_le hn (of_decide_eq_true (List.all_eq_true.mp htable run hrun))
  rw [shifted, shifted_of_lt hbound]
  simp [Nat.mod_one]

theorem lowerChar_of_not_upper {c : Char} (hascii : c.toNat < 128) (h : ¬isAsciiUpper c = true)
    (before after : List Char) : lowerChar before c after = [c] := by
  have htable : lowerRuns = (65, 90, 1, 32) :: lowerRuns.tail := rfl
  have hcode : shifted c.toNat lowerRuns = c.toNat := by
    rw [htable, shifted_cons_of_lt hascii (by decide +kernel), if_neg]
    rwa [isAsciiUpper_iff] at h
  rw [lowerChar, if_neg (by omega), if_neg (by omega), hcode, Char.ofNat_toNat]

theorem lower_of_not_upper {s : String} (h : ∀ c ∈ s.toList, c.toNat < 128 ∧ ¬isAsciiUpper c = true) :
    lower s = s := by
  have hchars : ∀ (before cs : List Char), (∀ c ∈ cs, c.toNat < 128 ∧ ¬isAsciiUpper c = true) →
      lowerChars before cs = cs := by
    intro before cs hcs
    induction cs generalizing before with
    | nil => rfl
    | cons c cs ih =>
        obtain ⟨hascii, hupper⟩ := hcs c List.mem_cons_self
        rw [lowerChars, lowerChar_of_not_upper hascii hupper,
          ih _ fun x hx => hcs x (List.mem_cons_of_mem c hx), List.singleton_append]
  rw [lower, hchars [] s.toList h, String.ofList_toList]

theorem upperChar_of_ascii {c : Char} (hascii : c.toNat < 128) : upperChar c = [Step.toUpper c] := by
  have htable : upperRuns = (97, 122, 1, -32) :: upperRuns.tail := rfl
  have hlong : longUppers.find? (fun entry => entry.1 == c.toNat) = none := by
    have hbound : longUppers.all (fun entry => decide (128 ≤ entry.1)) = true := rfl
    rw [List.find?_eq_none]
    intro entry hentry heq
    have hentry : 128 ≤ entry.1 := of_decide_eq_true (List.all_eq_true.mp hbound entry hentry)
    rw [beq_iff_eq] at heq
    omega
  rw [upperChar, hlong]
  simp only
  rw [htable, shifted_cons_of_lt hascii (by decide +kernel), Step.toUpper]
  split
  · rename_i hlower
    rw [if_pos ((isAsciiLower_iff c).mpr hlower)]
    congr 2
    omega
  · rename_i hlower
    rw [if_neg (mt (isAsciiLower_iff c).mp hlower), Char.ofNat_toNat]

theorem toList_upper_of_ascii {s : String} (h : ∀ c ∈ s.toList, c.toNat < 128) :
    (upper s).toList = s.toList.map Step.toUpper := by
  have hchars : ∀ cs : List Char, (∀ c ∈ cs, c.toNat < 128) → cs.flatMap upperChar = cs.map Step.toUpper := by
    intro cs hcs
    induction cs with
    | nil => rfl
    | cons c cs ih =>
        rw [List.flatMap_cons, upperChar_of_ascii (hcs c List.mem_cons_self),
          ih fun x hx => hcs x (List.mem_cons_of_mem c hx), List.singleton_append, List.map_cons]
  rw [upper, String.toList_ofList, hchars s.toList h]

end DurableFlow.Text
