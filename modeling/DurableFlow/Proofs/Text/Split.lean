import DurableFlow.Text.Blank
import DurableFlow.Text.Split
import Mathlib.Data.List.TakeWhile

/-!
Splitting and trimming. Pieces that were joined with a separator are found again when none of them has
the separator in it. A run of characters of one class, and what is dropped at the ends of a text, stop at
the first character of another class.
-/

namespace DurableFlow.Text

/-! ### Splitting -/

theorem not_mem_of_mem_splitChars {sep : Char} {cs piece : List Char}
    (h : piece ∈ splitChars sep cs) : sep ∉ piece := by
  induction cs generalizing piece with
  | nil =>
      obtain rfl : piece = [] := by simpa [splitChars] using h
      exact List.not_mem_nil
  | cons c cs ih =>
      rw [splitChars] at h
      split at h
      · rcases List.mem_cons.mp h with rfl | h
        · exact List.not_mem_nil
        · exact ih h
      next hc =>
        split at h
        · obtain rfl : piece = [c] := by simpa using h
          simpa using Ne.symm hc
        next first rest hcs =>
          rcases List.mem_cons.mp h with rfl | h
          · rw [List.mem_cons, not_or]
            exact ⟨Ne.symm hc, ih (hcs ▸ List.mem_cons_self)⟩
          · exact ih (hcs ▸ List.mem_cons_of_mem first h)

theorem splitChars_append {sep : Char} {piece : List Char} (h : sep ∉ piece) (cs : List Char) :
    splitChars sep (piece ++ sep :: cs) = piece :: splitChars sep cs := by
  induction piece with
  | nil => simp [splitChars]
  | cons c piece ih =>
      rw [List.mem_cons, not_or] at h
      rw [List.cons_append, splitChars, if_neg (Ne.symm h.1), ih h.2]

theorem splitChars_of_not_mem {sep : Char} {piece : List Char} (h : sep ∉ piece) :
    splitChars sep piece = [piece] := by
  induction piece with
  | nil => rfl
  | cons c piece ih =>
      rw [List.mem_cons, not_or] at h
      rw [splitChars, if_neg (Ne.symm h.1), ih h.2]

theorem not_mem_of_mem_splitAt {sep : Char} {s piece : String} (h : piece ∈ splitAt sep s) :
    sep ∉ piece.toList := by
  obtain ⟨cs, hcs, rfl⟩ := List.mem_map.mp h
  rw [String.toList_ofList]
  exact not_mem_of_mem_splitChars hcs

theorem splitAt_append {sep : Char} {piece : String} (h : sep ∉ piece.toList) (s : String) :
    splitAt sep (piece ++ (String.singleton sep ++ s)) = piece :: splitAt sep s := by
  have hchars : (piece ++ (String.singleton sep ++ s)).toList = piece.toList ++ sep :: s.toList := by
    simp
  rw [splitAt, hchars, splitChars_append h, List.map_cons, String.ofList_toList, splitAt]

theorem splitAt_of_not_mem {sep : Char} {piece : String} (h : sep ∉ piece.toList) :
    splitAt sep piece = [piece] := by
  rw [splitAt, splitChars_of_not_mem h, List.map_singleton, String.ofList_toList]

theorem splitAt_intercalate {sep : Char} {pieces : List String} (hne : pieces ≠ [])
    (h : ∀ piece ∈ pieces, sep ∉ piece.toList) :
    splitAt sep ((String.singleton sep).intercalate pieces) = pieces := by
  induction pieces with
  | nil => contradiction
  | cons piece pieces ih =>
      rw [List.forall_mem_cons] at h
      cases pieces with
      | nil => rw [String.intercalate_singleton, splitAt_of_not_mem h.1]
      | cons next pieces =>
          rw [String.intercalate_cons_cons, String.append_assoc]
          exact (splitAt_append h.1 _).trans (congrArg (piece :: ·) (ih (by simp) h.2))

theorem exists_splitChars (sep : Char) (cs : List Char) :
    ∃ piece pieces, splitChars sep cs = piece :: pieces ∧ piece <+: cs ∧ sep ∉ piece := by
  induction cs with
  | nil => exact ⟨[], [], rfl, List.nil_prefix, List.not_mem_nil⟩
  | cons c cs ih =>
      obtain ⟨piece, pieces, hpieces, hprefix, hsep⟩ := ih
      by_cases hc : c = sep
      · exact ⟨[], splitChars sep cs, by rw [splitChars, if_pos hc], List.nil_prefix,
          List.not_mem_nil⟩
      · refine ⟨c :: piece, pieces, by rw [splitChars, if_neg hc, hpieces], ?_, ?_⟩
        · exact (List.prefix_cons_inj c).mpr hprefix
        · rw [List.mem_cons, not_or]
          exact ⟨Ne.symm hc, hsep⟩

/-- Behind the first piece stands nothing, or the separator and the text of the other pieces. -/
theorem of_splitChars_eq_cons {sep : Char} {cs first : List Char} {pieces : List (List Char)}
    (h : splitChars sep cs = first :: pieces) :
    pieces = [] ∧ cs = first ∨ ∃ rest, cs = first ++ sep :: rest ∧ splitChars sep rest = pieces := by
  induction cs generalizing first with
  | nil =>
      obtain ⟨rfl, rfl⟩ := List.cons.inj h
      exact .inl ⟨rfl, rfl⟩
  | cons c cs ih =>
      rw [splitChars] at h
      split at h
      next hc =>
        obtain ⟨rfl, hpieces⟩ := List.cons.inj h
        exact .inr ⟨cs, by rw [hc, List.nil_append], hpieces⟩
      next =>
        obtain ⟨piece, pieces', hsplit, -⟩ := exists_splitChars sep cs
        rw [hsplit] at h
        obtain ⟨rfl, rfl⟩ := List.cons.inj h
        rcases ih hsplit with ⟨rfl, rfl⟩ | ⟨rest, rfl, hrest⟩
        · exact .inl ⟨rfl, rfl⟩
        · exact .inr ⟨rest, rfl, hrest⟩

theorem after?_eq_none {start cs : List Char} (h : ¬start <+: cs) : after? start cs = none := by
  induction start generalizing cs with
  | nil => exact absurd List.nil_prefix h
  | cons a as ih =>
      cases cs with
      | nil => rfl
      | cons c cs =>
          rw [after?]
          split
          · rename_i heq
            subst heq
            exact ih fun hp => h ((List.prefix_cons_inj a).mpr hp)
          · rfl

/-! ### Runs of one class -/

section Run

variable {p : Char → Bool} {a b rest rest' : List Char}

theorem run_append (ha : ∀ c ∈ a, p c = true) (hrest : ∀ c ∈ rest.head?, p c = false) :
    (a ++ rest).takeWhile p = a ∧ (a ++ rest).dropWhile p = rest := by
  rw [List.takeWhile_append_of_pos ha, List.dropWhile_append_of_pos ha]
  cases rest with
  | nil => exact ⟨List.append_nil a, rfl⟩
  | cons c rest =>
      have hc : ¬p c = true := by simp [hrest c rfl]
      rw [List.takeWhile_cons_of_neg hc, List.dropWhile_cons_of_neg hc, List.append_nil]
      exact ⟨rfl, rfl⟩

/-- A text can be cut behind its first run in one way. -/
theorem run_cut (ha : ∀ c ∈ a, p c = true) (hb : ∀ c ∈ b, p c = true)
    (hrest : ∀ c ∈ rest.head?, p c = false) (hrest' : ∀ c ∈ rest'.head?, p c = false)
    (h : a ++ rest = b ++ rest') : a = b ∧ rest = rest' := by
  obtain ⟨htake, hdrop⟩ := run_append ha hrest
  obtain ⟨htake', hdrop'⟩ := run_append hb hrest'
  rw [h] at htake hdrop
  exact ⟨htake.symm.trans htake', hdrop.symm.trans hdrop'⟩

end Run

/-! ### Ends of texts -/

theorem mem_getLast?_append (a : List Char) {b : List Char} {c : Char} (h : c ∈ b.getLast?) :
    c ∈ (a ++ b).getLast? := by
  rw [List.getLast?_append, Option.mem_def.mp h]
  rfl

theorem dropWhile_append_of_head {p : Char → Bool} (a : List Char) {c : Char} (hc : p c = false)
    (b : List Char) : (a ++ c :: b).dropWhile p = a.dropWhile p ++ c :: b := by
  induction a with
  | nil => exact List.dropWhile_cons_of_neg (by simp [hc])
  | cons d a ih =>
      rw [List.cons_append, List.dropWhile_cons, List.dropWhile_cons]
      split
      · exact ih
      · rfl

theorem dropEnd_append {p : Char → Bool} (a : List Char) {b : List Char}
    (h : ∃ x ∈ b, p x = false) : dropEnd p (a ++ b) = a ++ dropEnd p b := by
  obtain ⟨x, hx, hp⟩ := h
  obtain ⟨front, back, rfl⟩ := List.append_of_mem hx
  have hreverse : (a ++ (front ++ x :: back)).reverse =
      back.reverse ++ x :: (front.reverse ++ a.reverse) := by
    simp
  have hreverse' : (front ++ x :: back).reverse = back.reverse ++ x :: front.reverse := by simp
  rw [dropEnd, dropEnd, hreverse, hreverse', dropWhile_append_of_head _ hp,
    dropWhile_append_of_head _ hp]
  simp

theorem dropEnd_append_of_last {p : Char → Bool} {a : List Char} (h : ∃ x ∈ a.getLast?, p x = false)
    (b : List Char) : dropEnd p (a ++ b) = a ++ dropEnd p b := by
  obtain ⟨x, hx, hp⟩ := h
  obtain ⟨front, rfl⟩ := List.getLast?_eq_some_iff.mp hx
  have hreverse : (front ++ [x] ++ b).reverse = b.reverse ++ x :: front.reverse := by simp
  rw [dropEnd, dropEnd, hreverse, dropWhile_append_of_head _ hp]
  simp

theorem exists_dropped (p : Char → Bool) (cs : List Char) :
    ∃ trail, cs = dropEnd p cs ++ trail ∧ ∀ c ∈ trail, p c = true := by
  refine ⟨(cs.reverse.takeWhile p).reverse, ?_, fun c hc => ?_⟩
  · rw [dropEnd, ← List.reverse_append, List.takeWhile_append_dropWhile, List.reverse_reverse]
  · exact List.mem_takeWhile_imp (List.mem_reverse.mp hc)

theorem dropEnd_eq_self_iff {p : Char → Bool} {cs : List Char} :
    dropEnd p cs = cs ↔ ∀ c ∈ cs.getLast?, p c = false := by
  rcases List.eq_nil_or_concat cs with rfl | ⟨front, last, rfl⟩
  · simp [dropEnd]
  rw [List.concat_eq_append, List.getLast?_concat]
  constructor
  · intro h c hc
    obtain rfl := Option.some.inj hc
    by_contra hp
    -- Dropping the last character would make the text shorter.
    have hlength := congrArg List.length h
    rw [dropEnd, List.reverse_concat, List.dropWhile_cons_of_pos (by simpa using hp),
      List.length_reverse, List.length_append, List.length_singleton] at hlength
    have hle := List.length_dropWhile_le p front.reverse
    rw [List.length_reverse] at hle
    omega
  · intro h
    rw [dropEnd, List.reverse_concat, List.dropWhile_cons_of_neg (by simpa using h), List.reverse_cons,
      List.reverse_reverse]

theorem dropEnd_append_of_all {p : Char → Bool} (a : List Char) {trail : List Char}
    (h : ∀ c ∈ trail, p c = true) : dropEnd p (a ++ trail) = dropEnd p a := by
  rw [dropEnd, List.reverse_append,
    List.dropWhile_append_of_pos fun c hc => h c (List.mem_reverse.mp hc), dropEnd]

/-- What is left is what stands before the dropped characters and ends with another one. -/
theorem dropEnd_eq_iff {p : Char → Bool} {cs front : List Char} :
    dropEnd p cs = front ↔
      (∀ c ∈ front.getLast?, p c = false) ∧ ∃ trail, cs = front ++ trail ∧ ∀ c ∈ trail, p c = true := by
  constructor
  · rintro rfl
    obtain ⟨trail, hcs, htrail⟩ := exists_dropped p cs
    refine ⟨dropEnd_eq_self_iff.mp ?_, trail, hcs, htrail⟩
    exact (dropEnd_append_of_all _ htrail).symm.trans (congrArg (dropEnd p) hcs.symm)
  · rintro ⟨hlast, trail, rfl, htrail⟩
    rw [dropEnd_append_of_all _ htrail, dropEnd_eq_self_iff.mpr hlast]

theorem trimChars_space (cs : List Char) : trimChars (' ' :: cs) = trimChars cs := by
  rw [trimChars, trimWhile, List.dropWhile_cons_of_pos (by decide), trimChars, trimWhile]

theorem trimChars_of_head {c : Char} (hc : isBlank c = false) (cs : List Char) :
    trimChars (c :: cs) = dropEnd isBlank (c :: cs) := by
  rw [trimChars, trimWhile, List.dropWhile_cons_of_neg (by simp [hc]), dropEnd]

end DurableFlow.Text
