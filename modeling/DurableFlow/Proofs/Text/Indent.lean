import DurableFlow.Text.Lines
import Mathlib.Data.List.Basic

/-!
Indentation, line by line. A line feed separates what is indented before it from what is indented
behind it, so a block is indented by indenting its lines. Indentation only adds blanks: what stands
within one line stands there afterwards, and no text without blanks comes into being.
-/

namespace DurableFlow.Text

theorem linesOf_break {c : Char} {rest : List Char} (hc : isLineBreak c = true)
    (hpair : ∀ tail, c = '\r' → rest = '\n' :: tail → False) :
    linesOf (c :: rest) = [c] :: linesOf rest := by
  rw [linesOf.eq_3 c rest hpair, if_pos hc]

def consLine (c : Char) : List (List Char) → List (List Char)
  | [] => [[c]]
  | line :: lines => (c :: line) :: lines

theorem not_isLineBreak_cr {c : Char} (hc : ¬isLineBreak c = true) : c ≠ '\r' := by
  rintro rfl
  exact hc rfl

theorem linesOf_plain {c : Char} (hc : ¬isLineBreak c = true) (rest : List Char) :
    linesOf (c :: rest) = consLine c (linesOf rest) := by
  rw [linesOf.eq_3 c rest fun _ h => absurd h (not_isLineBreak_cr hc), if_neg hc]
  cases linesOf rest <;> rfl

theorem flatten_linesOf (cs : List Char) : (linesOf cs).flatten = cs := by
  induction cs using linesOf.induct with
  | case1 => rfl
  | case2 rest ih => simp [linesOf, ih]
  | case3 c rest hpair hc ih => simp [linesOf_break hc hpair, ih]
  | case4 c rest _ hc hnil ih =>
      rw [hnil, List.flatten_nil] at ih
      subst ih
      rw [linesOf_plain hc, hnil]
      rfl
  | case5 c rest _ hc line lines hlines ih =>
      rw [hlines] at ih
      simpa [linesOf_plain hc, hlines, consLine] using ih

/-- The second list of lines is the first one with a line feed behind its last line, or in a line of
its own, and the rest behind that. -/
def EndsIn (rest before after : List (List Char)) : Prop :=
  after = before ++ ['\n'] :: rest ∨
    ∃ lines last, before = lines ++ [last] ∧ after = lines ++ (last ++ ['\n']) :: rest

namespace EndsIn

variable {rest before after : List (List Char)}

theorem cons (h : EndsIn rest before after) (line : List Char) :
    EndsIn rest (line :: before) (line :: after) := by
  rcases h with rfl | ⟨lines, last, rfl, rfl⟩
  · exact .inl rfl
  · exact .inr ⟨line :: lines, last, rfl, rfl⟩

/-- A character may join the first line, which may be the last one as well. -/
theorem consLine (h : EndsIn rest before after) (c : Char) :
    EndsIn rest (consLine c before) (consLine c after) := by
  rcases h with rfl | ⟨lines, last, rfl, rfl⟩
  · cases before with
    | nil => exact .inr ⟨[], [c], rfl, rfl⟩
    | cons line lines => exact .inl rfl
  · cases lines with
    | nil => exact .inr ⟨[], c :: last, rfl, rfl⟩
    | cons line lines => exact .inr ⟨(c :: line) :: lines, last, rfl, rfl⟩

end EndsIn

/-- A line feed behind a text ends its last line, or stands in a line of its own. -/
theorem linesOf_append_feed (cs rest : List Char) :
    EndsIn (linesOf rest) (linesOf cs) (linesOf (cs ++ '\n' :: rest)) := by
  induction cs using linesOf.induct with
  | case1 => exact .inl (linesOf_break rfl (by simp))
  | case2 tail ih => simpa only [linesOf, List.cons_append] using ih.cons ['\r', '\n']
  | case3 c tail hpair hc ih =>
      -- A carriage return at the end of the text makes a pair with the line feed.
      by_cases hcr : c = '\r' ∧ tail = []
      · obtain ⟨rfl, rfl⟩ := hcr
        exact .inr ⟨[], ['\r'], rfl, by simp [linesOf]⟩
      · have hpair' : ∀ more, c = '\r' → tail ++ '\n' :: rest = '\n' :: more → False := by
          intro more hr heq
          cases tail with
          | nil => exact hcr ⟨hr, rfl⟩
          | cons d more' =>
              rw [List.cons_append, List.cons.injEq] at heq
              exact hpair more' hr (by rw [heq.1])
        rw [List.cons_append, linesOf_break hc hpair', linesOf_break hc hpair]
        exact ih.cons [c]
  | case4 c tail _ hc _ ih =>
      rw [List.cons_append, linesOf_plain hc, linesOf_plain hc]
      exact ih.consLine c
  | case5 c tail _ hc _ _ _ ih =>
      rw [List.cons_append, linesOf_plain hc, linesOf_plain hc]
      exact ih.consLine c

theorem isBlank_feed : isBlank '\n' = true := rfl

theorem indentLine_append_feed (margin line : List Char) :
    indentLine margin (line ++ ['\n']) = indentLine margin line ++ ['\n'] := by
  rw [indentLine, indentLine, List.all_append]
  by_cases h : line.all isBlank = true <;> simp [h, isBlank_feed]

/-- A line feed separates what is indented before and behind it. -/
theorem indentChars_append_feed (margin cs rest : List Char) :
    indentChars margin (cs ++ '\n' :: rest) =
      indentChars margin cs ++ '\n' :: indentChars margin rest := by
  rw [indentChars, indentChars, indentChars]
  rcases linesOf_append_feed cs rest with h | ⟨lines, last, hlines, h⟩
  · simp [h, indentLine, isBlank_feed]
  · simp [h, hlines, indentLine_append_feed]

theorem indentChars_feed (margin rest : List Char) :
    indentChars margin ('\n' :: rest) = '\n' :: indentChars margin rest :=
  indentChars_append_feed margin [] rest

theorem linesOf_of_single {cs : List Char} (hne : cs ≠ []) (h : ∀ c ∈ cs, ¬isLineBreak c = true) :
    linesOf cs = [cs] := by
  induction cs with
  | nil => contradiction
  | cons c rest ih =>
      rw [linesOf_plain (h c List.mem_cons_self)]
      cases rest with
      | nil => rfl
      | cons d more =>
          rw [ih (by simp) fun x hx => h x (List.mem_cons_of_mem c hx)]
          rfl

theorem indentChars_of_single {margin cs : List Char} (h : ∀ c ∈ cs, ¬isLineBreak c = true)
    (hfull : cs.all isBlank = false) : indentChars margin cs = margin ++ cs := by
  have hne : cs ≠ [] := by
    rintro rfl
    simp at hfull
  rw [indentChars, linesOf_of_single hne h]
  simp [indentLine, hfull]

/-- What stands on the first line, and what follows it. -/
theorem linesOf_append_of_single {x : List Char} (hne : x ≠ [])
    (h : ∀ c ∈ x, ¬isLineBreak c = true) (y : List Char) :
    ∃ l ls, linesOf (x ++ y) = (x ++ l) :: ls := by
  induction x with
  | nil => exact absurd rfl hne
  | cons c x ih =>
      rw [List.cons_append, linesOf_plain (h c List.mem_cons_self)]
      by_cases hnil : x = []
      · subst hnil
        cases linesOf ([] ++ y) with
        | nil => exact ⟨[], [], rfl⟩
        | cons l ls => exact ⟨l, ls, rfl⟩
      · obtain ⟨l, ls, hlines⟩ := ih hnil fun d hd => h d (List.mem_cons_of_mem c hd)
        rw [hlines]
        exact ⟨l, ls, rfl⟩

/-- A text that starts on a line that is not blank starts with the margin when it is indented. -/
theorem indentChars_append_of_single {margin x : List Char} (h : ∀ c ∈ x, ¬isLineBreak c = true)
    (hfull : x.all isBlank = false) (y : List Char) :
    ∃ rest, indentChars margin (x ++ y) = margin ++ x ++ rest := by
  have hne : x ≠ [] := by
    rintro rfl
    simp at hfull
  obtain ⟨l, ls, hlines⟩ := linesOf_append_of_single hne h y
  refine ⟨l ++ ls.flatMap (indentLine margin), ?_⟩
  rw [indentChars, hlines, List.flatMap_cons, indentLine, List.all_append, hfull]
  simp

/-! ### Texts -/

@[simp] theorem toList_indentBy (margin code : String) :
    (indentBy margin code).toList = indentChars margin.toList code.toList := by
  simp [indentBy]

theorem block_cons_cons (line next : String) (lines : List String) :
    block (line :: next :: lines) = line ++ "\n" ++ block (next :: lines) := by
  simp [block]

theorem indentBy_append_feed (margin s t : String) :
    indentBy margin (s ++ "\n" ++ t) = indentBy margin s ++ "\n" ++ indentBy margin t := by
  apply String.toList_injective
  simp [indentChars_append_feed]

theorem block_append {front rest : List String} (hfront : front ≠ []) (hrest : rest ≠ []) :
    block (front ++ rest) = block front ++ "\n" ++ block rest :=
  String.intercalate_append_of_ne_nil hfront hrest

/-- A line stands between the lines around it. -/
theorem exists_block (front back : List String) :
    ∃ a b, ∀ line, block (front ++ line :: back) = a ++ line ++ b := by
  induction front with
  | nil =>
      cases back with
      | nil => exact ⟨"", "", fun line => by simp [block]⟩
      | cons next back =>
          refine ⟨"", "\n" ++ block (next :: back), fun line => ?_⟩
          rw [List.nil_append, block_cons_cons, String.empty_append, String.append_assoc]
  | cons first front ih =>
      obtain ⟨a, b, hblock⟩ := ih
      refine ⟨first ++ "\n" ++ a, b, fun line => ?_⟩
      have hfirst : block (first :: (front ++ line :: back)) =
          first ++ "\n" ++ block (front ++ line :: back) := by
        cases front <;> exact block_cons_cons _ _ _
      rw [List.cons_append, hfirst, hblock]
      simp only [String.append_assoc]

theorem indentBy_intercalate (margin : String) (blocks : List String) :
    indentBy margin ("\n\n".intercalate blocks) =
      "\n\n".intercalate (blocks.map (indentBy margin)) := by
  induction blocks with
  | nil => rfl
  | cons b rest ih =>
      cases rest with
      | nil => simp
      | cons next rest =>
          rw [List.map_cons, List.map_cons, String.intercalate_cons_cons,
            String.intercalate_cons_cons]
          rw [List.map_cons] at ih
          rw [← ih]
          apply String.toList_injective
          simp [indentChars_append_feed, indentChars_feed]

/-! ### Occurrences -/

theorem linesOf_cons_infix {c : Char} {rest line : List Char} (h : line ∈ linesOf rest) :
    ∃ line' ∈ linesOf (c :: rest), line <:+: line' := by
  by_cases hc : isLineBreak c = true
  · by_cases hpair : ∃ tail, c = '\r' ∧ rest = '\n' :: tail
    · obtain ⟨tail, rfl, rfl⟩ := hpair
      rw [linesOf_break rfl (by simp), List.mem_cons] at h
      rcases h with rfl | h
      · exact ⟨['\r', '\n'], by simp [linesOf], ⟨['\r'], [], rfl⟩⟩
      · exact ⟨line, by simp [linesOf, h], List.infix_rfl⟩
    · rw [linesOf_break hc fun tail h₁ h₂ => hpair ⟨tail, h₁, h₂⟩]
      exact ⟨line, List.mem_cons_of_mem _ h, List.infix_rfl⟩
  · rw [linesOf_plain hc]
    cases hlines : linesOf rest with
    | nil => simp [hlines] at h
    | cons l ls =>
        rw [hlines, List.mem_cons] at h
        rcases h with rfl | h
        · exact ⟨c :: line, List.mem_cons_self, ⟨[c], [], by simp⟩⟩
        · exact ⟨line, List.mem_cons_of_mem _ h, List.infix_rfl⟩

theorem prefix_line {w cs : List Char} (hw : ∀ c ∈ w, ¬isLineBreak c = true) (hne : w ≠ [])
    (h : w <+: cs) : ∃ line lines, linesOf cs = line :: lines ∧ w <+: line := by
  induction w generalizing cs with
  | nil => exact absurd rfl hne
  | cons c w ih =>
      obtain ⟨rest, rfl⟩ := h
      rw [List.cons_append, linesOf_plain (hw c List.mem_cons_self)]
      by_cases hnil : w = []
      · subst hnil
        cases linesOf ([] ++ rest) with
        | nil => exact ⟨[c], [], rfl, List.prefix_rfl⟩
        | cons line lines => exact ⟨c :: line, lines, rfl, line, rfl⟩
      · obtain ⟨line, lines, hlines, hpre⟩ :=
          ih (fun x hx => hw x (List.mem_cons_of_mem c hx)) hnil (List.prefix_append w rest)
        rw [hlines]
        exact ⟨c :: line, lines, rfl, (List.prefix_cons_inj c).mpr hpre⟩

theorem infix_line {w cs : List Char} (hw : ∀ c ∈ w, ¬isLineBreak c = true) (hne : w ≠ [])
    (h : w <:+: cs) : ∃ line ∈ linesOf cs, w <:+: line := by
  induction cs with
  | nil => exact absurd (List.infix_nil.mp h) hne
  | cons c rest ih =>
      rcases List.infix_cons_iff.mp h with hpre | hin
      · obtain ⟨line, lines, hlines, hpre⟩ := prefix_line hw hne hpre
        exact ⟨line, by simp [hlines], hpre.isInfix⟩
      · obtain ⟨line, hline, hin⟩ := ih hin
        obtain ⟨line', hline', hsub⟩ := linesOf_cons_infix hline
        exact ⟨line', hline', hin.trans hsub⟩

theorem infix_indentLine (margin line : List Char) : line <:+: indentLine margin line := by
  rw [indentLine]
  split
  · exact List.infix_rfl
  · exact List.infix_append_right

theorem infix_indentChars {w cs : List Char} (margin : List Char)
    (hw : ∀ c ∈ w, ¬isLineBreak c = true) (h : w <:+: cs) : w <:+: indentChars margin cs := by
  by_cases hne : w = []
  · subst hne
    exact List.nil_infix
  · obtain ⟨line, hline, hin⟩ := infix_line hw hne h
    refine hin.trans ((infix_indentLine margin line).trans ?_)
    obtain ⟨before, behind, hsplit⟩ := List.append_of_mem hline
    rw [indentChars, hsplit, List.flatMap_append, List.flatMap_cons]
    exact List.infix_append' _ _ _

/-- The first text stands somewhere in the second one. -/
def Occurs (w t : String) : Prop := w.toList <:+: t.toList

namespace Occurs

theorem append_left {w t : String} (h : Occurs w t) (u : String) : Occurs w (t ++ u) := by
  rw [Occurs, String.toList_append]
  exact List.infix_append_of_infix_left h

theorem append_right {w t : String} (h : Occurs w t) (u : String) : Occurs w (u ++ t) := by
  rw [Occurs, String.toList_append]
  exact List.infix_append_of_infix_right h

theorem refl (w : String) : Occurs w w := List.infix_rfl

theorem intercalate {w t : String} (h : Occurs w t) (sep : String) {ts : List String} (ht : t ∈ ts) :
    Occurs w (sep.intercalate ts) := by
  induction ts with
  | nil => simp at ht
  | cons t' ts ih =>
      cases ts with
      | nil =>
          rw [List.mem_singleton] at ht
          subst ht
          rwa [String.intercalate_singleton]
      | cons next ts =>
          rw [String.intercalate_cons_cons]
          rcases List.mem_cons.mp ht with rfl | ht
          · exact (h.append_left sep).append_left _
          · exact (ih ht).append_right _

theorem block {w t : String} (h : Occurs w t) {lines : List String} (ht : t ∈ lines) :
    Occurs w (block lines) :=
  h.intercalate "\n" ht

theorem indentBy {w t : String} (h : Occurs w t) (hw : ∀ c ∈ w.toList, ¬isLineBreak c = true)
    (margin : String) : Occurs w (indentBy margin t) := by
  rw [Occurs, toList_indentBy]
  exact infix_indentChars margin.toList hw h

end Occurs

/-- The second text is the first one with blanks put in. -/
inductive Spread : List Char → List Char → Prop
  | nil : Spread [] []
  | keep (c : Char) {cs ds : List Char} : Spread cs ds → Spread (c :: cs) (c :: ds)
  | blank {c : Char} {cs ds : List Char} : isBlank c = true → Spread cs ds → Spread cs (c :: ds)

namespace Spread

theorem refl (cs : List Char) : Spread cs cs := by
  induction cs with
  | nil => exact .nil
  | cons c cs ih => exact .keep c ih

theorem append {cs cs' ds ds' : List Char} (h : Spread cs ds) (h' : Spread cs' ds') :
    Spread (cs ++ cs') (ds ++ ds') := by
  induction h with
  | nil => exact h'
  | keep c _ ih => exact .keep c ih
  | blank hc _ ih => exact .blank hc ih

theorem margin {margin : List Char} (h : margin.all isBlank = true) (cs : List Char) :
    Spread cs (margin ++ cs) := by
  induction margin with
  | nil => exact refl cs
  | cons c margin ih =>
      rw [List.all_cons, Bool.and_eq_true] at h
      exact .blank h.1 (ih h.2)

theorem lines {margin : List Char} (h : margin.all isBlank = true) (ls : List (List Char)) :
    Spread ls.flatten (ls.flatMap (indentLine margin)) := by
  induction ls with
  | nil => exact .nil
  | cons l ls ih =>
      rw [List.flatten_cons, List.flatMap_cons]
      refine append ?_ ih
      rw [indentLine]
      split
      · exact refl l
      · exact Spread.margin h l

theorem of_indentation {margin : List Char} (h : margin.all isBlank = true) (cs : List Char) :
    Spread cs (indentChars margin cs) := by
  have hlines := lines h (linesOf cs)
  rwa [flatten_linesOf] at hlines

theorem of_start {w cs ds : List Char} (h : Spread cs ds) (hw : ∀ c ∈ w, isBlank c = false)
    (hpre : w <+: ds) : w <+: cs := by
  induction h generalizing w with
  | nil => exact hpre
  | keep c _ ih =>
      cases w with
      | nil => exact List.nil_prefix
      | cons d w =>
          obtain ⟨rfl, htail⟩ := List.cons_prefix_cons.mp hpre
          exact List.cons_prefix_cons.mpr
            ⟨rfl, ih (fun x hx => hw x (List.mem_cons_of_mem d hx)) htail⟩
  | blank hc _ _ =>
      cases w with
      | nil => exact List.nil_prefix
      | cons d w =>
          obtain ⟨rfl, -⟩ := List.cons_prefix_cons.mp hpre
          rw [hw d List.mem_cons_self] at hc
          contradiction

/-- A text without blanks that stands in a spread text stood in the text before. -/
theorem within {w cs ds : List Char} (h : Spread cs ds) (hw : ∀ c ∈ w, isBlank c = false)
    (hin : w <:+: ds) : w <:+: cs := by
  induction h with
  | nil => exact hin
  | keep c h ih =>
      rcases List.infix_cons_iff.mp hin with hpre | hin
      · exact ((Spread.keep c h).of_start hw hpre).isInfix
      · exact List.infix_cons_iff.mpr (.inr (ih hin))
  | blank hc h ih =>
      rcases List.infix_cons_iff.mp hin with hpre | hin
      · exact ((Spread.blank hc h).of_start hw hpre).isInfix
      · exact ih hin

/-- Indentation does not change which character is the first that is not blank. -/
theorem find?_solid {cs ds : List Char} (h : Spread cs ds) :
    ds.find? (fun c => !isBlank c) = cs.find? fun c => !isBlank c := by
  induction h with
  | nil => rfl
  | keep c _ ih => rw [List.find?_cons, List.find?_cons, ih]
  | blank hc _ ih => rw [List.find?_cons_of_neg (by simp [hc]), ih]

end Spread

/-- The second text is the first one with blanks put in at the starts of lines, the start of the text
included if it is one. -/
inductive Indents : (atStart : Bool) → List Char → List Char → Prop
  | nil {atStart : Bool} : Indents atStart [] []
  | keep {atStart : Bool} {c : Char} {cs ds : List Char} (h : Indents (isLineBreak c) cs ds) :
      Indents atStart (c :: cs) (c :: ds)
  | margin {margin cs ds : List Char} (hmargin : margin.all isBlank = true)
      (h : Indents false cs ds) : Indents true cs (margin ++ ds)

namespace Indents

theorem of_false {atStart : Bool} {cs ds : List Char} (h : Indents false cs ds) :
    Indents atStart cs ds := by
  cases h with
  | nil => exact .nil
  | keep h => exact .keep h

/-- Blanks are put in at a cut only as a part of what stands before it. -/
theorem split {atStart : Bool} {a b ds : List Char} (h : Indents atStart (a ++ b) ds) :
    ∃ a' b', ds = a' ++ b' ∧ Indents atStart a a' ∧ Indents false b b' := by
  generalize hcs : a ++ b = cs at h
  induction h generalizing a with
  | nil =>
      obtain ⟨rfl, rfl⟩ := List.append_eq_nil_iff.mp hcs
      exact ⟨[], [], rfl, .nil, .nil⟩
  | @keep atStart c cs ds h ih =>
      cases a with
      | nil =>
          rw [List.nil_append] at hcs
          exact ⟨[], c :: ds, rfl, .nil, hcs ▸ .keep h⟩
      | cons d a =>
          obtain ⟨rfl, htail⟩ := List.cons.inj hcs
          obtain ⟨a', b', rfl, ha, hb⟩ := ih htail
          exact ⟨d :: a', b', rfl, .keep ha, hb⟩
  | @margin margin cs ds hmargin h ih =>
      obtain ⟨a', b', rfl, ha, hb⟩ := ih hcs
      exact ⟨margin ++ a', b', by rw [List.append_assoc], .margin hmargin ha, hb⟩

theorem single {x b ds : List Char} (h : Indents false (x ++ b) ds)
    (hx : ∀ c ∈ x, ¬isLineBreak c = true) : ∃ b', ds = x ++ b' ∧ Indents false b b' := by
  induction x generalizing ds with
  | nil => exact ⟨ds, rfl, h⟩
  | cons c x ih =>
      cases h with
      | keep h =>
          rw [Bool.eq_false_iff.mpr (hx c List.mem_cons_self)] at h
          obtain ⟨b', rfl, hb⟩ := ih h fun d hd => hx d (List.mem_cons_of_mem c hd)
          exact ⟨b', rfl, hb⟩

theorem all_isBlank_of_nil {atStart : Bool} {ds : List Char} (h : Indents atStart [] ds) :
    ds.all isBlank = true := by
  cases h with
  | nil => rfl
  | margin hmargin h =>
      cases h
      rwa [List.append_nil]

/-- Only the first line is without its margin. -/
def AllButFirst (margin cs : List Char) : Prop :=
  ∀ line lines, linesOf cs = line :: lines →
    Indents false cs (line ++ lines.flatMap (indentLine margin))

theorem of_allButFirst {margin cs : List Char} (hmargin : margin.all isBlank = true)
    (h : AllButFirst margin cs) : Indents true cs (indentChars margin cs) := by
  rw [indentChars]
  cases hlines : linesOf cs with
  | nil =>
      have hcs := flatten_linesOf cs
      rw [hlines] at hcs
      exact hcs ▸ .nil
  | cons line lines =>
      rw [List.flatMap_cons, indentLine]
      split
      · exact (h line lines hlines).of_false
      · rw [List.append_assoc]
        exact .margin hmargin (h line lines hlines)

/-- Indentation puts its margin at the starts of lines. -/
theorem of_indentation {margin : List Char} (hmargin : margin.all isBlank = true)
    (cs : List Char) : Indents true cs (indentChars margin cs) := by
  refine of_allButFirst hmargin ?_
  induction cs using linesOf.induct with
  | case1 =>
      intro line lines h
      cases h
  | case2 rest ih =>
      intro line lines h
      obtain ⟨rfl, rfl⟩ := List.cons.inj h
      exact .keep (.keep (of_allButFirst hmargin ih))
  | case3 c rest hpair hc ih =>
      intro line lines h
      rw [linesOf_break hc hpair] at h
      obtain ⟨rfl, rfl⟩ := List.cons.inj h
      exact .keep (hc ▸ of_allButFirst hmargin ih)
  | case4 c rest _ hc hnil ih =>
      intro line lines h
      have hrest := flatten_linesOf rest
      rw [hnil] at hrest
      rw [linesOf_plain hc, hnil] at h
      obtain ⟨rfl, rfl⟩ := List.cons.inj h
      exact hrest ▸ .keep .nil
  | case5 c rest _ hc next more hlines ih =>
      intro line lines h
      rw [linesOf_plain hc, hlines] at h
      obtain ⟨rfl, rfl⟩ := List.cons.inj h
      exact .keep (ih next more hlines).of_false

end Indents

end DurableFlow.Text
