import DurableFlow.Proofs.Code.Silent
import DurableFlow.Proofs.Expression.Literal
import DurableFlow.Proofs.Step.Identifier

/-!
Expressions that are made from a configuration. Accessors, template literals and literal values read
nothing of the environment, whatever the texts hold that they are made from: a name behind a point does
not start a read, and everything else is quoted or escaped.
-/

namespace DurableFlow

namespace Access

open State (start)
open Template (exists_leftmost)

/-! ### Chains of accesses -/

/-- In code, behind a value whose last word counts for nothing. -/
def Valued (holes : List Nat) (st : State) : Prop := Loose holes st ∧ st.settled = ([], .apart)

theorem valued_start (holes : List Nat) : Valued holes (start holes) := ⟨loose_start holes, rfl⟩

theorem Valued.step_point {holes : List Nat} {st : State} (h : Valued holes st) :
    st.step '.' = ([], ⟨.code, [], .dotted, holes⟩) := by
  obtain ⟨hloose, hsettled⟩ := h
  rw [State.step, hloose.place_eq]
  show st.codeStep '.' = _
  rw [State.codeStep, hloose.holes_eq, countBrace_of_ne (by decide) (by decide)]
  show st.feed (.mark '.') .code holes = _
  rw [State.feed, hsettled]
  rfl

/-- A name behind a point is the name of a member. -/
theorem Valued.runs_name {holes : List Nat} {st : State} (h : Valued holes st) {c : Char}
    {cs : List Char} (hcs : ∀ x ∈ c :: cs, isWordChar x = true) :
    ∃ st', Valued holes st' ∧ Runs st ('.' :: c :: cs) [] st' := by
  refine ⟨_, ⟨⟨(c :: cs).reverse ++ [], .dotted, trivial, rfl⟩, ?_⟩,
    .cons h.step_point (runs_word hcs [] .dotted holes)⟩
  rw [State.settled, if_neg (by simp)]
  rfl

/-- What stands in brackets is apart from what stands before them. -/
theorem Valued.runs_bracketed {holes : List Nat} {st : State} (h : Valued holes st) {cs : List Char}
    (hcs : Settles holes cs) : Runs st ('[' :: (cs ++ [']'])) [] (start holes) := by
  obtain ⟨st', hst', hruns⟩ := hcs
  exact .cons (h.1.step_mark (by decide)) (hruns.append (.single (hst'.step_mark (by decide))))

theorem isWordChar_of_isNamePart {c : Char} (h : Path.isNamePart c = true) : isWordChar c = true := by
  refine isWordChar_of_class (p := Path.isNamePart) (by decide) h ?_
  rw [Path.isNamePart, Bool.or_eq_true, decide_eq_true_eq] at h
  rcases h with h | rfl
  · exact Text.not_isBlank_of_isWord h
  · rfl

theorem isWordChar_of_isNumber {c : Char} (h : Text.isDecimal c = true ∨ Text.isDigitLike c = true) :
    isWordChar c = true :=
  isWordChar_of_class (p := fun c => Text.isDecimal c || Text.isDigitLike c) (by decide)
    (by simpa using h) (Text.not_isBlank_of_digit h)

theorem Valued.runs_chain {holes : List Nat} {st : State} (h : Valued holes st) {cs : List Char}
    (hcs : Path.Chain cs) : ∃ st', Valued holes st' ∧ Runs st cs [] st' := by
  induction hcs generalizing st with
  | nil => exact ⟨st, h, .nil st⟩
  | @name c cs rest hc hcs _ ih =>
      have hword : ∀ x ∈ c :: cs, isWordChar x = true := List.forall_mem_cons.mpr
        ⟨isWordChar_of_isNamePart (Path.isNamePart_of_isNameStart hc),
          fun x hx => isWordChar_of_isNamePart (hcs x hx)⟩
      obtain ⟨st', hst', hname⟩ := h.runs_name hword
      obtain ⟨st'', hst'', hrest⟩ := ih hst'
      exact ⟨st'', hst'', hname.append hrest⟩
  | @index ds rest hds _ ih =>
      have hindex := h.runs_bracketed (settles_word (fun x hx => isWordChar_of_isNumber (hds x hx)) holes)
      obtain ⟨st', hst', hrest⟩ := ih (valued_start holes)
      refine ⟨st', hst', ?_⟩
      rw [List.append_cons, ← List.cons_append]
      exact hindex.append hrest
  | @key key rest _ ih =>
      have hkey := h.runs_bracketed ⟨_, loose_start holes, runs_quoteChars key holes⟩
      obtain ⟨st', hst', hrest⟩ := ih (valued_start holes)
      refine ⟨st', hst', ?_⟩
      rw [List.append_cons, ← List.cons_append]
      exact hkey.append hrest

theorem runs_root (root : List Char) (hroot : root.all isWordChar = true) (hother : root ≠ thisWord)
    (holes : List Nat) : ∃ st, Valued holes st ∧ Runs (start holes) root [] st := by
  refine ⟨_, ⟨⟨root.reverse ++ [], .apart, trivial, rfl⟩, ?_⟩,
    runs_word (List.all_eq_true.mp hroot) [] .apart holes⟩
  rw [State.settled]
  split
  · rfl
  · show (([] : List Access), Chain.fresh (.word _)) = _
    rw [Chain.fresh, List.append_nil, List.reverse_reverse, if_neg hother]

/-! ### Accessors -/

theorem settles_accessor {r : Resolver} (hr : ∀ step ∈ r.steps, Step.IsIdentifier step.toList)
    (inner : List Char) (holes : List Nat) : Settles holes (r.accessor inner) := by
  rcases r.accessor_cases inner with ⟨id, chain, hchain, heq⟩ | ⟨step, hstep, chain, hchain, heq⟩
  · obtain ⟨st, hst, hroot⟩ := runs_root stateVariable.toList (by decide) (by decide) holes
    obtain ⟨st', hst', hruns⟩ := hst.runs_chain (.key id hchain)
    rw [heq]
    exact ⟨st', hst'.1, hroot.append hruns⟩
  · obtain ⟨st, hst, hroot⟩ := runs_root resultsVariable.toList (by decide) (by decide) holes
    obtain ⟨hword, c, hhead, -⟩ := hr step hstep
    obtain ⟨cs, hcs⟩ := List.head?_eq_some_iff.mp hhead
    rw [hcs] at hword
    obtain ⟨st', hst', hname⟩ := hst.runs_name fun x hx => isWordChar_of_isAsciiWord (hword x hx)
    obtain ⟨st'', hst'', hruns⟩ := hst'.runs_chain hchain
    rw [heq, hcs, ← List.cons_append]
    exact ⟨st'', hst''.1, hroot.append (hname.append hruns)⟩

theorem silent_reference {r : Resolver} (hr : ∀ step ∈ r.steps, Step.IsIdentifier step.toList)
    (inner : String) : Silent (r.reference inner) := by
  have h := settles_accessor hr inner.toList []
  rwa [Resolver.accessor, String.ofList_toList] at h

/-! ### Template literals -/

def textOf (holes : List Nat) : State := ⟨.template, [], .apart, holes⟩

theorem place_textOf_ne (holes : List Nat) : (textOf holes).place ≠ .templateDollar := by
  simp [textOf]

/-- In the text of a template literal, perhaps behind a dollar sign. -/
def InText (holes : List Nat) (st : State) : Prop :=
  st = textOf holes ∨ st = { textOf holes with place := .templateDollar }

theorem inText_textOf (holes : List Nat) : InText holes (textOf holes) := .inl rfl

theorem InText.step {holes : List Nat} {st : State} (h : InText holes st) {c : Char}
    (hc : st.place = .templateDollar → c ≠ '\x7b') : st.step c = st.templateStep c := by
  rcases h with rfl | rfl
  · rfl
  · exact if_neg (hc rfl)

theorem InText.step_plain {holes : List Nat} {st : State} (h : InText holes st) {c : Char}
    (hc : st.place = .templateDollar → c ≠ '\x7b') (htick : c ≠ '`') (hback : c ≠ '\\') :
    ∃ st', InText holes st' ∧ st.step c = ([], st') ∧ (st'.place = .templateDollar → c = '$') := by
  rw [h.step hc, State.templateStep, if_neg htick, if_neg hback]
  by_cases hdollar : c = '$'
  · rw [if_pos hdollar]
    exact ⟨{ textOf holes with place := .templateDollar }, .inr rfl, by rcases h with rfl | rfl <;> rfl,
      fun _ => hdollar⟩
  · rw [if_neg hdollar]
    exact ⟨textOf holes, .inl rfl, by rcases h with rfl | rfl <;> rfl,
      fun h => absurd h (place_textOf_ne holes)⟩

/-- Behind a backslash any character is text. -/
theorem InText.runs_escaped {holes : List Nat} {st : State} (h : InText holes st) (c : Char) :
    Runs st ['\\', c] [] (textOf holes) := by
  rcases h with rfl | rfl <;> rfl

/-- Plain text cannot end the literal or open a substitution. -/
theorem InText.runs_escapeText {holes : List Nat} {text : List Char} {st : State}
    (h : InText holes st) (hopen : st.place = .templateDollar → text.head? ≠ some '\x7b') :
    ∃ st', InText holes st' ∧ Runs st (Resolver.escapeText text) [] st' := by
  have htext := inText_textOf holes
  fun_induction Resolver.escapeText text generalizing st with
  | case1 => exact ⟨st, h, .nil st⟩
  | case2 cs ih =>
      obtain ⟨st', hst', hruns⟩ := ih htext fun h => absurd h (place_textOf_ne holes)
      have hbrace : State.step (textOf holes) '\x7b' = ([], textOf holes) := rfl
      exact ⟨st', hst', (h.runs_escaped '$').append (.cons hbrace hruns)⟩
  | case3 c cs hdollar ih =>
      have hescaped {d : Char} : ∃ st', InText holes st' ∧
          Runs st (['\\', d] ++ Resolver.escapeText cs) [] st' := by
        obtain ⟨st', hst', hruns⟩ := ih htext fun h => absurd h (place_textOf_ne holes)
        exact ⟨st', hst', (h.runs_escaped d).append hruns⟩
      split
      next => exact hescaped
      next hback =>
        split
        next => exact hescaped
        next htick =>
          split
          next => exact hescaped
          next =>
            split
            next => exact hescaped
            next =>
              obtain ⟨st', hst', hstep, hplace⟩ :=
                h.step_plain (fun hdollar hc => hopen hdollar (congrArg some hc)) htick hback
              obtain ⟨st'', hst'', hruns⟩ := ih hst' fun hst hhead => by
                obtain ⟨d, hcs⟩ := List.head?_eq_some_iff.mp hhead
                exact hdollar d (hplace hst) hcs
              exact ⟨st'', hst'', .cons hstep hruns⟩

theorem InText.runs_substitution {r : Resolver}
    (hr : ∀ step ∈ r.steps, Step.IsIdentifier step.toList) {holes : List Nat} {st : State}
    (h : InText holes st) (inner : List Char) :
    Runs st ('$' :: '\x7b' :: (r.accessor inner ++ ['\x7d'])) [] (textOf holes) := by
  have hdollar : st.step '$' = ([], { textOf holes with place := .templateDollar }) := by
    rcases h with rfl | rfl <;> rfl
  have hopen : State.step { textOf holes with place := .templateDollar } '\x7b' =
      ([], start (0 :: holes)) := rfl
  obtain ⟨st', hst', hruns⟩ := settles_accessor hr inner (0 :: holes)
  have hclose : st'.step '\x7d' = ([], textOf holes) := by
    rw [State.step, hst'.place_eq]
    show st'.codeStep '\x7d' = _
    rw [State.codeStep, hst'.holes_eq]
    exact hst'.feed_mark (by decide) .template holes
  exact .cons hdollar (.cons hopen (hruns.append (.single hclose)))

theorem InText.runs_parts {r : Resolver} (hr : ∀ step ∈ r.steps, Step.IsIdentifier step.toList)
    {holes : List Nat} {st : State} (h : InText holes st) (parts : List (List Char × List Char)) :
    Runs st (Literal.partBody r parts ++ ['`']) [] (start holes) := by
  induction parts generalizing st with
  | nil =>
      refine .single ?_
      rcases h with rfl | rfl <;> rfl
  | cons p parts ih =>
      have hbody : Literal.partBody r (p :: parts) ++ ['`'] =
          '$' :: '\x7b' :: (r.accessor p.1 ++ ['\x7d']) ++
            (Resolver.escapeText p.2 ++ (Literal.partBody r parts ++ ['`'])) := by
        simp [Literal.partBody]
      obtain ⟨st', hst', hbehind⟩ :=
        (inText_textOf holes).runs_escapeText fun h => absurd h (place_textOf_ne holes)
      rw [hbody]
      exact (h.runs_substitution hr p.1).append (hbehind.append (ih hst'))

theorem silent_string {r : Resolver} (hr : ∀ step ∈ r.steps, Step.IsIdentifier step.toList)
    (s : String) : Silent (r.string s) := by
  obtain ⟨text, parts, h⟩ := exists_leftmost s.toList
  by_cases hplain : parts = []
  · subst hplain
    rw [r.string_plain h]
    exact (whole_quote s).silent
  by_cases hsingle : ∃ inner, text = [] ∧ parts = [(inner, [])]
  · obtain ⟨inner, rfl, rfl⟩ := hsingle
    rw [r.string_single h]
    exact silent_reference hr _
  · have hmixed := r.string_mixed h hplain fun inner heq => hsingle ⟨inner, heq⟩
    have htick : (start []).step '`' = ([], textOf []) := rfl
    obtain ⟨st, hst, htext⟩ := 
      (inText_textOf []).runs_escapeText fun h => absurd h (place_textOf_ne [])
    exact ⟨start [], loose_start [], hmixed ▸ .cons htick (htext.append (hst.runs_parts hr parts))⟩

/-! ### Values -/

mutual

theorem silent_value {r : Resolver} (hr : ∀ step ∈ r.steps, Step.IsIdentifier step.toList) :
    (v : Json) → Silent (r.value v)
  | .null => silent_compact .null
  | .bool b => silent_compact (.bool b)
  | .int n => silent_int n
  | .float x => silent_floatText x
  | .str s => silent_string hr s
  | .arr items => by
      rw [Resolver.value]
      exact ((whole_chars rfl rfl).around (silent_list (silent_valueItems hr items))
        (closer_chars rfl rfl)).silent
  | .obj [] => whole_emptyObject.silent
  | .obj (m :: ms) => by
      rw [Resolver.value]
      exact (whole_braced (silent_list (silent_valueMembers hr (m :: ms)))).silent

theorem silent_valueItems {r : Resolver} (hr : ∀ step ∈ r.steps, Step.IsIdentifier step.toList) :
    (items : List Json) → ∀ t ∈ r.valueItems items, Silent t
  | [] => by simp [Resolver.valueItems]
  | v :: vs => List.forall_mem_cons.mpr ⟨silent_value hr v, silent_valueItems hr vs⟩

theorem silent_valueMembers {r : Resolver} (hr : ∀ step ∈ r.steps, Step.IsIdentifier step.toList) :
    (ms : List (String × Json)) → ∀ t ∈ r.valueMembers ms, Silent t
  | [] => by simp [Resolver.valueMembers]
  | (k, v) :: ms => List.forall_mem_cons.mpr
      ⟨((whole_quote k).append (whole_chars rfl rfl)).before (silent_value hr v),
        silent_valueMembers hr ms⟩

end

end Access

end DurableFlow
