import DurableFlow.Proofs.Text.Class
import DurableFlow.Proofs.Text.Line

/-!
How much indentation adds. Every line that is not blank gets the margin once, so a text grows by the
margin once when it is a single line, and more than once when a line break stands inside it.
-/

namespace DurableFlow.Text

def fullLines (cs : List Char) : Nat := (linesOf cs).countP fun line => !line.all isBlank

theorem length_indentChars (margin cs : List Char) :
    (indentChars margin cs).length = margin.length * fullLines cs + cs.length := by
  have hlines : ∀ ls : List (List Char), (ls.flatMap (indentLine margin)).length =
      margin.length * ls.countP (fun line => !line.all isBlank) + ls.flatten.length := by
    intro ls
    induction ls with
    | nil => rfl
    | cons line ls ih =>
        rw [List.flatMap_cons, List.length_append, ih, List.countP_cons, List.flatten_cons,
          List.length_append, indentLine]
        cases line.all isBlank with
        | true =>
            simp only [if_true, Bool.not_true, Bool.false_eq_true, if_false, Nat.add_zero]
            omega
        | false =>
            simp only [Bool.false_eq_true, if_false, Bool.not_false, if_true, List.length_append,
              Nat.mul_add, Nat.mul_one]
            omega
  rw [indentChars, hlines, flatten_linesOf, fullLines]

theorem exists_full_of_flatten {ls : List (List Char)} (h : ls.flatten.all isBlank = false) :
    0 < ls.countP fun line => !line.all isBlank := by
  rw [List.all_flatten, List.all_eq_false] at h
  obtain ⟨line, hline, hfull⟩ := h
  exact List.countP_pos_iff.mpr ⟨line, hline, by simpa using hfull⟩

theorem fullLines_pos {cs : List Char} (h : cs.all isBlank = false) : 0 < fullLines cs :=
  exists_full_of_flatten (by rwa [flatten_linesOf])

theorem indentChars_full (margin : List Char) {cs : List Char} (h : cs.all isBlank = false) :
    (indentChars margin cs).all isBlank = false := by
  obtain ⟨c, hc, hfull⟩ := List.all_eq_false.mp h
  obtain ⟨front, rest, rfl⟩ := List.append_of_mem hc
  have hsingle : ∀ x ∈ [c], ¬isLineBreak x = true := fun x hx =>
    List.mem_singleton.mp hx ▸ not_isLineBreak_of_not_isBlank (Bool.eq_false_iff.mpr hfull)
  have hout : [c] <:+: indentChars margin (front ++ c :: rest) :=
    infix_indentChars margin hsingle ⟨front, rest, by simp⟩
  exact List.all_eq_false.mpr ⟨c, hout.subset List.mem_cons_self, hfull⟩

/-- Nothing but the second half of a pair stands behind a break in a line, so a line that ends in
something else has no break. -/
theorem not_isLineBreak_of_mem_line {cs front : List Char} {last : Char}
    (h : front ++ [last] ∈ linesOf cs) (hlast : isBlank last = false) {c : Char} (hc : c ∈ front) :
    ¬isLineBreak c = true := by
  intro hbreak
  obtain ⟨before, behind, rfl⟩ := List.append_of_mem hc
  cases behind with
  | nil =>
      have hline : before ++ [c] ++ [last] = before ++ c :: last :: [] := by simp
      obtain ⟨-, rfl, -⟩ := end_of_break_in_line h hline hbreak
      contradiction
  | cons d behind =>
      have hline : before ++ c :: d :: behind ++ [last] = before ++ c :: d :: (behind ++ [last]) := by
        simp
      simpa using (end_of_break_in_line h hline hbreak).2.2

/-- A line break between two characters that are not blank separates two lines that are not. -/
theorem two_le_fullLines {first last : Char} {mid : List Char} (hfirst : isBlank first = false)
    (hlast : isBlank last = false) {c : Char} (hc : c ∈ mid) (hbreak : isLineBreak c = true) :
    2 ≤ fullLines (first :: (mid ++ [last])) := by
  obtain ⟨line, lines, hlines⟩ := linesOf_append_of_single (List.cons_ne_nil first [])
    (by simpa using not_isLineBreak_of_not_isBlank hfirst) (mid ++ [last])
  have hflatten := flatten_linesOf ([first] ++ (mid ++ [last]))
  rw [hlines, List.flatten_cons, List.append_assoc, List.append_cancel_left_eq] at hflatten
  rw [fullLines, ← List.singleton_append, hlines, List.countP_cons_of_pos (by simp [hfirst])]
  have hrest : lines.flatten.all isBlank = false := by
    rcases List.eq_nil_or_concat lines.flatten with hnil | ⟨init, x, hinit⟩
    · -- The first line would reach to the end, with the break inside it.
      rw [hnil, List.append_nil] at hflatten
      have hline : (first :: mid) ++ [last] ∈ linesOf ([first] ++ (mid ++ [last])) := by
        rw [hlines, hflatten]
        exact List.mem_cons_self
      exact absurd hbreak (not_isLineBreak_of_mem_line hline hlast (List.mem_cons_of_mem first hc))
    · rw [hinit, List.concat_eq_append, ← List.append_assoc] at hflatten
      obtain ⟨-, hx⟩ := List.append_inj' hflatten rfl
      rw [hinit, List.concat_eq_append, List.all_append, hx]
      simp [hlast]
  have hpos := exists_full_of_flatten hrest
  omega

end DurableFlow.Text
