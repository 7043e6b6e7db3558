import DurableFlow.Proofs.Text.Indent

/-!
Texts that stand in others as whole lines. A line has its line break at its end and nowhere else, so
a text with a break inside never fills one line. Blocks, margins and empty lines between blocks keep
whole lines whole.
-/

namespace DurableFlow.Text

/-! ### One line -/

theorem singleton_ne_append_cons_cons {front rest : List Char} {x c d : Char} :
    [x] ≠ front ++ c :: d :: rest := by
  intro h
  have hlength := congrArg List.length h
  simp only [List.length_cons, List.length_append, List.length_nil] at hlength
  omega

/-- In a line, nothing stands behind a line break but the second half of a pair. -/
theorem end_of_break_in_line {cs line : List Char} (h : line ∈ linesOf cs) {front rest : List Char}
    {c d : Char} (hline : line = front ++ c :: d :: rest) (hc : isLineBreak c = true) :
    c = '\r' ∧ d = '\n' ∧ rest = [] := by
  induction cs using linesOf.induct generalizing line front with
  | case1 => simp [linesOf] at h
  | case2 tail ih =>
      rw [linesOf, List.mem_cons] at h
      rcases h with rfl | h
      · -- The pair itself: the break is its first half.
        cases front with
        | nil => simpa [eq_comm] using hline
        | cons x front => exact absurd (List.cons.inj hline).2 singleton_ne_append_cons_cons
      · exact ih h hline
  | case3 x tail hpair hx ih =>
      rw [linesOf_break hx hpair, List.mem_cons] at h
      rcases h with rfl | h
      · exact absurd hline singleton_ne_append_cons_cons
      · exact ih h hline
  | case4 x tail _ hx hnil ih =>
      rw [linesOf_plain hx, hnil, consLine, List.mem_singleton] at h
      exact absurd (h.symm.trans hline) singleton_ne_append_cons_cons
  | case5 x tail _ hx first lines hlines ih =>
      rw [linesOf_plain hx, hlines, consLine, List.mem_cons] at h
      rw [hlines] at ih
      rcases h with rfl | h
      · cases front with
        | nil =>
            rw [List.nil_append, List.cons.injEq] at hline
            exact absurd (hline.1 ▸ hc) hx
        | cons y front =>
            rw [List.cons_append, List.cons.injEq] at hline
            exact ih List.mem_cons_self hline.2
      · exact ih (List.mem_cons_of_mem first h) hline

/-- A text that ends in no line break fills a line only if it has none inside. -/
theorem not_isLineBreak_of_line {cs margin text : List Char} {last : Char}
    (h : margin ++ (text ++ [last]) ++ ['\n'] ∈ linesOf cs) (hlast : ¬isLineBreak last = true) :
    ∀ c ∈ text ++ [last], ¬isLineBreak c = true := by
  intro c hc hbreak
  rcases List.mem_append.mp hc with hc | hc
  · obtain ⟨front, rest, rfl⟩ := List.append_of_mem hc
    have hend : ∃ d more, rest ++ [last] ++ ['\n'] = d :: more ∧ more ≠ [] := by
      cases rest with
      | nil => exact ⟨last, ['\n'], rfl, List.cons_ne_nil _ _⟩
      | cons d rest => exact ⟨d, rest ++ [last] ++ ['\n'], rfl, by simp⟩
    obtain ⟨d, more, hsplit, hmore⟩ := hend
    have hline : margin ++ (front ++ c :: rest ++ [last]) ++ ['\n'] =
        (margin ++ front) ++ c :: d :: more := by
      rw [← hsplit]
      simp
    exact hmore (end_of_break_in_line h hline hbreak).2.2
  · rw [List.mem_singleton] at hc
    exact hlast (hc ▸ hbreak)

theorem linesOf_single_feed {line : List Char} (h : ∀ c ∈ line, ¬isLineBreak c = true)
    (rest : List Char) : linesOf (line ++ '\n' :: rest) = (line ++ ['\n']) :: linesOf rest := by
  induction line with
  | nil => exact linesOf_break rfl (by simp)
  | cons c line ih =>
      rw [List.cons_append, linesOf_plain (h c List.mem_cons_self),
        ih fun d hd => h d (List.mem_cons_of_mem c hd)]
      rfl

theorem mem_linesOf_between {line : List Char} (h : ∀ c ∈ line, ¬isLineBreak c = true)
    (before behind : List Char) :
    line ++ ['\n'] ∈ linesOf (before ++ '\n' :: (line ++ '\n' :: behind)) := by
  have hmem : line ++ ['\n'] ∈ linesOf (line ++ '\n' :: behind) := by
    rw [linesOf_single_feed h]
    exact List.mem_cons_self
  rcases linesOf_append_feed before (line ++ '\n' :: behind) with hlines | ⟨_, _, -, hlines⟩
  · rw [hlines]
    exact List.mem_append_right _ (List.mem_cons_of_mem _ hmem)
  · rw [hlines]
    exact List.mem_append_right _ (List.mem_cons_of_mem _ hmem)

/-! ### Whole lines -/

theorem indentBy_empty (margin : String) : indentBy margin "" = "" := rfl

/-- The text stands in another one from the start of a line to the end of a line. -/
def Within (t text : String) : Prop :=
  ∃ before behind, "\n" ++ text ++ "\n" = before ++ ("\n" ++ t ++ "\n") ++ behind

namespace Within

theorem refl (t : String) : Within t t := ⟨"", "", by simp⟩

theorem trans {t u text : String} (h : Within t u) (h' : Within u text) : Within t text := by
  obtain ⟨before, behind, hu⟩ := h
  obtain ⟨before', behind', htext⟩ := h'
  refine ⟨before' ++ before, behind ++ behind', ?_⟩
  rw [htext, hu]
  simp only [String.append_assoc]

theorem cons_intercalate {sep : String} {x y : String} (hsep : sep = x ++ "\n")
    (hsep' : sep = "\n" ++ y) (t : String) {ts : List String} (hts : ts ≠ []) :
    Within t (sep.intercalate (t :: ts)) ∧
      Within (sep.intercalate ts) (sep.intercalate (t :: ts)) := by
  obtain ⟨next, rest, rfl⟩ := List.exists_cons_of_ne_nil hts
  rw [String.intercalate_cons_cons]
  refine ⟨⟨"", y ++ sep.intercalate (next :: rest) ++ "\n", ?_⟩, "\n" ++ t ++ x, "", ?_⟩
  · rw [hsep']
    simp only [String.append_assoc, String.empty_append]
  · rw [hsep]
    simp only [String.append_assoc, String.append_empty]

theorem intercalate {sep x y : String} (hsep : sep = x ++ "\n") (hsep' : sep = "\n" ++ y)
    {t : String} {ts : List String} (ht : t ∈ ts) : Within t (sep.intercalate ts) := by
  induction ts with
  | nil => simp at ht
  | cons t' ts ih =>
      by_cases hts : ts = []
      · subst hts
        rw [List.mem_singleton] at ht
        subst ht
        rw [String.intercalate_singleton]
        exact refl t
      · have hparts := cons_intercalate hsep hsep' t' hts
        rcases List.mem_cons.mp ht with rfl | ht
        · exact hparts.1
        · exact (ih ht).trans hparts.2

theorem block {t : String} {lines : List String} (ht : t ∈ lines) : Within t (block lines) :=
  intercalate (x := "") (y := "") rfl rfl ht

theorem indentBy {t text : String} (h : Within t text) (margin : String) :
    Within (indentBy margin t) (indentBy margin text) := by
  obtain ⟨before, behind, htext⟩ := h
  refine ⟨Text.indentBy margin before, Text.indentBy margin behind, ?_⟩
  have hpad : ∀ u, Text.indentBy margin ("\n" ++ u ++ "\n") =
      "\n" ++ Text.indentBy margin u ++ "\n" := by
    intro u
    have hends : "\n" ++ u ++ "\n" = "" ++ "\n" ++ u ++ "\n" ++ "" := by simp
    rw [hends, indentBy_append_feed, indentBy_append_feed, indentBy_empty]
    simp
  have hsplit : before ++ ("\n" ++ t ++ "\n") ++ behind =
      before ++ "\n" ++ (t ++ "\n" ++ behind) := by
    simp only [String.append_assoc]
  rw [← hpad, htext, hsplit, indentBy_append_feed, indentBy_append_feed]
  simp only [String.append_assoc]

theorem occurs {t text : String} (h : Within t text) : Occurs t text := by
  obtain ⟨before, behind, htext⟩ := h
  have hchars : '\n' :: (text.toList ++ ['\n']) =
      before.toList ++ '\n' :: (t.toList ++ '\n' :: behind.toList) := by
    simpa using congrArg String.toList htext
  -- The line feeds around the text are not a part of the line.
  obtain ⟨front, hfront⟩ : ∃ front, text.toList ++ ['\n'] =
      front ++ t.toList ++ '\n' :: behind.toList := by
    cases hbefore : before.toList with
    | nil =>
        rw [hbefore] at hchars
        exact ⟨[], by simpa using hchars⟩
    | cons c cs =>
        rw [hbefore] at hchars
        exact ⟨cs ++ ['\n'], by simpa using (List.cons.inj hchars).2⟩
  rcases List.eq_nil_or_concat behind.toList with hnil | ⟨back, last, hback⟩
  · rw [hnil] at hfront
    exact ⟨front, [], by rw [List.append_cancel_right hfront, List.append_nil]⟩
  · rw [hback, List.concat_eq_append, ← List.cons_append, ← List.append_assoc] at hfront
    exact ⟨front, '\n' :: back, (List.append_inj_left' hfront rfl).symm⟩

/-- What follows a line feed in one of several texts in a row starts a line there. -/
theorem behind_feed {t before behind : String} (h : t = before ++ "\n" ++ behind)
    (a b c d : String) : Within (behind ++ c ++ d) (a ++ (b ++ t ++ c) ++ d) := by
  refine ⟨"\n" ++ (a ++ b ++ before), "", ?_⟩
  rw [h]
  simp only [String.append_assoc, String.append_empty]

end Within

/-- The line stands in the text, with blanks before it and a line feed behind it. -/
def OwnLine (line text : String) : Prop :=
  ∃ margin : List Char, margin.all isBlank = true ∧
    margin ++ line.toList ++ ['\n'] ∈ linesOf text.toList

end DurableFlow.Text
