import DurableFlow.Proofs.Code.Access
import DurableFlow.Proofs.Expression.Literal
import DurableFlow.Proofs.Json.Spelling

/-!
Code that reads nothing of its environment. A text is silent if the reader, starting where a word may start,
takes nothing down and is in code again at its end. Values, accessors and template literals are silent
whatever they hold, since texts are quoted, and a member that is called `this` stands behind a point.
-/

namespace DurableFlow

namespace Access

open State (start)

/-! ### Where expressions end -/

/-- No part of a read is written. -/
def Chain.IsLoose : Chain → Prop
  | .apart => True
  | .dotted => True
  | .twice => True
  | .this => True
  | _ => False

/-- In code, within these substitutions, behind a word or none, with no part of a read in front. -/
def Loose (holes : List Nat) (st : State) : Prop :=
  ∃ word chain, chain.IsLoose ∧ st = ⟨.code, word, chain, holes⟩

theorem loose_start (holes : List Nat) : Loose holes (start holes) := ⟨[], .apart, trivial, rfl⟩

theorem Chain.IsLoose.fresh (t : Token) : (Chain.fresh t).IsLoose := by
  cases t with
  | word cs =>
      rw [Chain.fresh]
      split <;> exact trivial
  | mark c =>
      rw [Chain.fresh]
      split <;> exact trivial
  | text _ => exact trivial

theorem Chain.IsLoose.next_word {chain : Chain} (h : chain.IsLoose) (cs : List Char) :
    ∃ chain', chain'.IsLoose ∧ chain.next (.word cs) = ([], chain') := by
  cases chain with
  | dotted => exact ⟨.apart, trivial, rfl⟩
  | apart => exact ⟨_, .fresh _, rfl⟩
  | twice => exact ⟨_, .fresh _, rfl⟩
  | this => exact ⟨_, .fresh _, rfl⟩
  | _ => exact h.elim

theorem Chain.IsLoose.next_mark {chain : Chain} (h : chain.IsLoose) {c : Char} (hc : c ≠ '.') :
    chain.next (.mark c) = ([], .apart) := by
  have hfresh : Chain.fresh (.mark c) = .apart := if_neg hc
  cases chain with
  | apart => rw [Chain.next, hfresh] <;> simp [hc]
  | dotted => rw [Chain.next, hfresh] <;> simp [hc]
  | twice => rw [Chain.next, hfresh] <;> simp [hc]
  | this => rw [Chain.next, hfresh] <;> simp [hc]
  | _ => exact h.elim

theorem Chain.IsLoose.settled {chain : Chain} (h : chain.IsLoose) (place : Place) (word : List Char)
    (holes : List Nat) :
    ∃ chain', chain'.IsLoose ∧ State.settled ⟨place, word, chain, holes⟩ = ([], chain') := by
  rw [State.settled]
  split
  · exact ⟨chain, h, rfl⟩
  · exact h.next_word _

/-- A mark that is a token by itself, wherever it stands in code. -/
def isMark (c : Char) : Bool :=
  !isWordChar c && !Text.isBlank c &&
    !(c = '"' || c = '\'' || c = '/' || c = '\\' || c = '`' || c = '.' || c = '\x7b' || c = '\x7d')

theorem Loose.step_blank {holes : List Nat} {st : State} (h : Loose holes st) {c : Char}
    (hc : Text.isBlank c = true) : ∃ st', Loose holes st' ∧ st.step c = ([], st') := by
  obtain ⟨word, chain, hchain, rfl⟩ := h
  obtain ⟨chain', hchain', hsettled⟩ := hchain.settled .code word holes
  refine ⟨⟨.code, [], chain', holes⟩, ⟨[], chain', hchain', rfl⟩, ?_⟩
  rw [State.step, codeStep_blank _ hc, State.pause, hsettled]

theorem Loose.feed_mark {holes : List Nat} {st : State} (h : Loose holes st) {c : Char} (hc : c ≠ '.')
    (place : Place) (holes' : List Nat) :
    st.feed (.mark c) place holes' = ([], ⟨place, [], .apart, holes'⟩) := by
  obtain ⟨word, chain, hchain, rfl⟩ := h
  obtain ⟨chain', hchain', hsettled⟩ := hchain.settled .code word holes
  rw [State.feed, hsettled]
  dsimp only
  rw [hchain'.next_mark hc]
  rfl

theorem Loose.place_eq {holes : List Nat} {st : State} (h : Loose holes st) : st.place = .code := by
  obtain ⟨word, chain, -, rfl⟩ := h
  rfl

theorem Loose.holes_eq {holes : List Nat} {st : State} (h : Loose holes st) : st.holes = holes := by
  obtain ⟨word, chain, -, rfl⟩ := h
  rfl

theorem countBrace_of_ne {c : Char} (hopen : c ≠ '\x7b') (hclose : c ≠ '\x7d') (holes : List Nat) :
    countBrace c holes = holes := by
  cases holes with
  | nil => rfl
  | cons depth holes => rw [countBrace, if_neg hopen, if_neg hclose]

/-- Behind a mark nothing that stands before it counts. -/
theorem Loose.step_mark {holes : List Nat} {st : State} (h : Loose holes st) {c : Char}
    (hc : isMark c = true) : st.step c = ([], start holes) := by
  simp only [isMark, Bool.and_eq_true, Bool.not_eq_true', Bool.or_eq_false_iff, decide_eq_false_iff_not]
    at hc
  obtain ⟨⟨hword, hblank⟩, ⟨⟨⟨⟨⟨⟨hdouble, hsingle⟩, hslash⟩, hback⟩, htick⟩, hdot⟩, hopen⟩, hclose⟩ := hc
  rw [State.step, h.place_eq]
  dsimp only
  rw [State.codeStep, hword, hblank, h.holes_eq, countBrace_of_ne hopen hclose]
  simp [hdouble, hsingle, hslash, hback, htick, hclose, start, h.feed_mark hdot]

theorem Loose.step_brace {st : State} (h : Loose [] st) {c : Char} (hc : c = '\x7b' ∨ c = '\x7d') :
    st.step c = ([], start []) := by
  rw [State.step, h.place_eq]
  dsimp only
  rw [State.codeStep, h.holes_eq]
  rcases hc with rfl | rfl
  · exact h.feed_mark (by decide) .code []
  · exact h.feed_mark (by decide) .code []

/-! ### Texts that read nothing -/

/-- Within these substitutions, the text leads from where a word may start to a place without a part of a
read, and reads nothing. -/
def Settles (holes : List Nat) (cs : List Char) : Prop :=
  ∃ st, Loose holes st ∧ Runs (start holes) cs [] st

/-- An expression that reads nothing of the environment. -/
def Silent (s : String) : Prop := Settles [] s.toList

/-- A text behind which a word may start again, and that reads nothing. -/
def Whole (s : String) : Prop := Runs (start []) s.toList [] (start [])

/-- Whether the first character that is no blank is a mark or a brace. -/
def startsApart (cs : List Char) : Bool :=
  (cs.dropWhile Text.isBlank).head?.any fun c => isMark c || c = '\x7b' || c = '\x7d'

/-- A text that may stand behind any expression. -/
structure Closer (s : String) : Prop where
  apart : startsApart s.toList = true
  whole : Whole s

def isWhole (cs : List Char) : Bool := (start []).run cs == ([], start [])

theorem Whole.of_isWhole {s : String} (h : isWhole s.toList = true) : Whole s := beq_iff_eq.mp h

theorem whole_chars {s : String} {cs : List Char} (hs : s = String.ofList cs)
    (h : isWhole cs = true) : Whole s := by
  apply Whole.of_isWhole
  rwa [hs, String.toList_ofList]

def isSilent (cs : List Char) : Bool :=
  match (start []).run cs with
  | ([], ⟨.code, _, chain, []⟩) => chain == .apart || chain == .dotted
  | _ => false

theorem silent_of_isSilent {s : String} (h : isSilent s.toList = true) : Silent s := by
  rw [isSilent] at h
  split at h
  next word chain heq =>
    rw [Bool.or_eq_true, beq_iff_eq, beq_iff_eq] at h
    rcases h with rfl | rfl
    · exact ⟨_, ⟨word, .apart, trivial, rfl⟩, heq⟩
    · exact ⟨_, ⟨word, .dotted, trivial, rfl⟩, heq⟩
  next => cases h

theorem silent_chars {s : String} {cs : List Char} (hs : s = String.ofList cs)
    (h : isSilent cs = true) : Silent s := by
  apply silent_of_isSilent
  rwa [hs, String.toList_ofList]

theorem closer_chars {s : String} {cs : List Char} (hs : s = String.ofList cs)
    (h : (startsApart cs && isWhole cs) = true) : Closer s := by
  rw [Bool.and_eq_true] at h
  refine ⟨?_, whole_chars hs h.2⟩
  rw [hs, String.toList_ofList]
  exact h.1

/-- A text that starts with a mark is read in the same way wherever it stands. -/
theorem Loose.run_apart {st : State} (h : Loose [] st) {cs : List Char} (hcs : startsApart cs = true) :
    st.run cs = (start []).run cs := by
  induction cs generalizing st with
  | nil => cases hcs
  | cons c cs ih =>
      by_cases hblank : Text.isBlank c = true
      · obtain ⟨st', hst', hstep⟩ := h.step_blank hblank
        have hstart : (start []).step c = ([], start []) := blankProof_code _ _ c hblank
        rw [startsApart, List.dropWhile_cons_of_pos hblank] at hcs
        rw [State.run, State.run, hstep, hstart, ih hst' hcs]
      · rw [startsApart, List.dropWhile_cons_of_neg hblank] at hcs
        have hstep {st : State} (h : Loose [] st) : st.step c = ([], start []) := by
          simp only [List.head?_cons, Option.any_some, Bool.or_eq_true, decide_eq_true_eq] at hcs
          rcases hcs with (hmark | hopen) | hclose
          · exact h.step_mark hmark
          · exact h.step_brace (.inl hopen)
          · exact h.step_brace (.inr hclose)
        rw [State.run, State.run, hstep h, hstep (loose_start [])]

theorem Settles.append {holes : List Nat} {a b : List Char}
    (ha : Runs (start holes) a [] (start holes)) (hb : Settles holes b) : Settles holes (a ++ b) := by
  obtain ⟨st, hst, hruns⟩ := hb
  exact ⟨st, hst, ha.append hruns⟩

theorem Whole.silent {s : String} (h : Whole s) : Silent s := ⟨_, loose_start [], h⟩

theorem Whole.append {a b : String} (ha : Whole a) (hb : Whole b) : Whole (a ++ b) := by
  rw [Whole, String.toList_append]
  exact Runs.append ha hb

theorem Whole.before {a b : String} (ha : Whole a) (hb : Silent b) : Silent (a ++ b) := by
  rw [Silent, String.toList_append]
  exact .append ha hb

/-- An expression ends with the text behind it. -/
theorem Silent.closed {a b : String} (ha : Silent a) (hb : Closer b) : Whole (a ++ b) := by
  obtain ⟨st, hst, hruns⟩ := ha
  have hclose : Runs st b.toList [] (start []) := (hst.run_apart hb.apart).trans hb.whole
  rw [Whole, String.toList_append]
  exact hruns.append hclose

theorem Silent.spaced {s blank : String} {c : Char} (h : Silent s) (hblank : blank.toList = [c])
    (hc : Text.isBlank c = true) : Silent (s ++ blank) := by
  obtain ⟨st, hst, hruns⟩ := h
  obtain ⟨st', hst', hstep⟩ := hst.step_blank hc
  rw [Silent, String.toList_append, hblank]
  exact ⟨st', hst', hruns.append (.single hstep)⟩

theorem Whole.around {a b t : String} (ha : Whole a) (ht : Silent t) (hb : Closer b) :
    Whole (a ++ t ++ b) := (ha.before ht).closed hb

theorem whole_empty : Whole "" := rfl

theorem silent_intercalate {sep : String} (hsep : Closer sep) {ts : List String}
    (h : ∀ t ∈ ts, Silent t) : Silent (sep.intercalate ts) := by
  induction ts with
  | nil => exact whole_empty.silent
  | cons t ts ih =>
      obtain ⟨ht, hts⟩ := List.forall_mem_cons.mp h
      cases ts with
      | nil =>
          rw [String.intercalate_singleton]
          exact ht
      | cons next ts =>
          rw [String.intercalate_cons_cons]
          exact (ht.closed hsep).before (ih hts)

theorem silent_list {ts : List String} (h : ∀ t ∈ ts, Silent t) : Silent (", ".intercalate ts) :=
  silent_intercalate (closer_chars rfl rfl) h

theorem whole_indent {s : String} (h : Whole s) : Whole (Text.indent s) :=
  (run_indentBy (by decide) s []).trans h

theorem silent_indent {s : String} (h : Silent s) : Silent (Text.indent s) := by
  obtain ⟨st, hst, hruns⟩ := h
  exact ⟨st, hst, (run_indentBy (by decide) s []).trans hruns⟩

theorem whole_braced {s : String} (h : Silent s) : Whole (braced s) :=
  (whole_chars rfl rfl).around h (closer_chars rfl rfl)

theorem whole_opens {s : String} (h : Silent s) : Whole (opens s) := h.closed (closer_chars rfl rfl)

theorem whole_closes : Whole closes := whole_chars rfl rfl

theorem whole_reopens {s : String} (h : Silent s) : Whole (reopens s) :=
  (whole_closes.append (whole_chars rfl rfl)).append (whole_opens h)

theorem whole_emptyObject : Whole emptyObject := whole_chars rfl rfl

/-! ### Words, numbers and quoted texts -/

theorem runs_word {cs : List Char} (h : ∀ c ∈ cs, isWordChar c = true) (word : List Char)
    (chain : Chain) (holes : List Nat) :
    Runs ⟨.code, word, chain, holes⟩ cs [] ⟨.code, cs.reverse ++ word, chain, holes⟩ := by
  induction cs generalizing word with
  | nil => exact .nil _
  | cons c cs ih =>
      obtain ⟨hc, hcs⟩ := List.forall_mem_cons.mp h
      have hstep : State.step ⟨.code, word, chain, holes⟩ c =
          ([], ⟨.code, c :: word, chain, holes⟩) := by
        show State.codeStep _ c = _
        rw [State.codeStep, if_pos hc]
      rw [List.reverse_cons, List.append_assoc, List.singleton_append]
      exact .cons hstep (ih hcs (c :: word))

theorem settles_word {cs : List Char} (h : ∀ c ∈ cs, isWordChar c = true) (holes : List Nat) :
    Settles holes cs :=
  ⟨_, ⟨_, .apart, trivial, rfl⟩, runs_word h [] .apart holes⟩

theorem isWordChar_of_isAsciiWord {c : Char} (h : Text.isAsciiWord c = true) : isWordChar c = true := by
  rw [isWordChar, h]
  rfl

/-- Beyond ASCII everything that is no blank counts as a part of a word. -/
theorem isWordChar_of_class {p : Char → Bool} (hp : (List.range 128).all (fun n =>
      !p (Char.ofNat n) || isWordChar (Char.ofNat n)) = true) {c : Char} (h : p c = true)
    (hblank : Text.isBlank c = false) : isWordChar c = true := by
  by_cases hascii : c.toNat < 128
  · have hcode := List.all_eq_true.mp hp _ (List.mem_range.mpr hascii)
    rw [Char.ofNat_toNat] at hcode
    simpa [h] using hcode
  · simp [isWordChar, hblank, Nat.not_lt.mp hascii]

/-- What is quoted stands in a quoted text, up to the closing quote. -/
theorem runs_escapes (cs : List Char) (chain : Chain) (holes : List Nat) (content : Option (List Char)) :
    ∃ content', Runs ⟨.quoted true content, [], chain, holes⟩ (cs.flatMap Json.escapeChar) []
      ⟨.quoted true content', [], chain, holes⟩ := by
  refine Json.escapes_induction (P := fun cs => ∀ content, ∃ content',
    Runs ⟨.quoted true content, [], chain, holes⟩ cs [] ⟨.quoted true content', [], chain, holes⟩)
    ?_ ?_ ?_ ?_ cs content
  · exact fun content => ⟨content, .nil _⟩
  · intro a b ha hb content
    obtain ⟨content', ha⟩ := ha content
    obtain ⟨content'', hb⟩ := hb content'
    exact ⟨content'', ha.append hb⟩
  · intro c hc hquote hslash content
    have hstep : State.step ⟨.quoted true content, [], chain, holes⟩ c = ([], ⟨.quoted true
        (if Text.isLineBreak c then none else content.map (· ++ [c])), [], chain, holes⟩) := by
      rw [State.step]
      dsimp only
      rw [if_pos rfl, if_neg hquote, if_neg hslash]
      rfl
    exact ⟨_, .single hstep⟩
  · intro c _ content
    have hback : State.step ⟨.quoted true content, [], chain, holes⟩ '\\' =
        ([], ⟨.quotedEscape true, [], chain, holes⟩) := rfl
    exact ⟨none, .cons hback (.single rfl)⟩

theorem runs_quoteChars (cs : List Char) (holes : List Nat) :
    Runs (start holes) (Json.quoteChars cs) [] (start holes) := by
  obtain ⟨content, h⟩ := runs_escapes cs .apart holes (some [])
  have hopen : (start holes).step '"' = ([], ⟨.quoted true (some []), [], .apart, holes⟩) := rfl
  exact .cons hopen (h.append (.single rfl))

theorem whole_quote (s : String) : Whole (Json.quote s) := by
  rw [Whole, toList_quote]
  exact runs_quoteChars s.toList []

/-! ### Numbers -/

/-- In code, behind characters of numbers or none, where a point may stand. -/
def Counting (holes : List Nat) (st : State) : Prop :=
  ∃ word chain, (∀ c ∈ word, Json.isNumeralChar c = true) ∧
    (chain = .apart ∨ chain = .dotted ∨ chain = .twice) ∧ st = ⟨.code, word, chain, holes⟩

theorem Counting.loose {holes : List Nat} {st : State} (h : Counting holes st) : Loose holes st := by
  obtain ⟨word, chain, -, hchain, rfl⟩ := h
  refine ⟨word, chain, ?_, rfl⟩
  rcases hchain with rfl | rfl | rfl <;> exact trivial

theorem Counting.settled {holes : List Nat} {st : State} (h : Counting holes st) :
    ∃ chain, (chain = .apart ∨ chain = .dotted ∨ chain = .twice) ∧ st.settled = ([], chain) := by
  obtain ⟨word, chain, hword, hchain, rfl⟩ := h
  rw [State.settled]
  split
  · exact ⟨chain, hchain, rfl⟩
  · -- No number is the word that a read starts with.
    have hother : word.reverse ≠ thisWord := by
      intro heq
      have hmem : 't' ∈ word := by
        rw [← List.mem_reverse, heq]
        decide
      exact absurd (hword _ hmem) (by decide)
    have hfresh : Chain.fresh (.word word.reverse) = .apart := if_neg hother
    refine ⟨.apart, .inl rfl, ?_⟩
    rcases hchain with rfl | rfl | rfl
    · exact congrArg (([] : List Access), ·) hfresh
    · rfl
    · exact congrArg (([] : List Access), ·) hfresh

theorem Counting.step_point {holes : List Nat} {st : State} (h : Counting holes st) :
    ∃ st', Counting holes st' ∧ st.step '.' = ([], st') := by
  have hplace := h.loose.place_eq
  have hholes := h.loose.holes_eq
  obtain ⟨chain, hchain, hsettled⟩ := h.settled
  have hstep : st.step '.' = st.feed (.mark '.') .code holes := by
    rw [State.step, hplace]
    show st.codeStep '.' = _
    rw [State.codeStep, hholes, countBrace_of_ne (by decide) (by decide)]
    rfl
  rw [hstep, State.feed, hsettled]
  have hnothing : ∀ c ∈ ([] : List Char), Json.isNumeralChar c = true := by simp
  rcases hchain with rfl | rfl | rfl
  · exact ⟨_, ⟨[], .dotted, hnothing, .inr (.inl rfl), rfl⟩, rfl⟩
  · exact ⟨_, ⟨[], .twice, hnothing, .inr (.inr rfl), rfl⟩, rfl⟩
  · exact ⟨_, ⟨[], .apart, hnothing, .inl rfl, rfl⟩, rfl⟩

theorem Counting.step {holes : List Nat} {st : State} (h : Counting holes st) {c : Char}
    (hc : Json.isNumeralChar c = true) : ∃ st', Counting holes st' ∧ st.step c = ([], st') := by
  by_cases hpoint : c = '.'
  · exact hpoint ▸ h.step_point
  by_cases hword : isWordChar c = true
  · obtain ⟨word, chain, hall, hchain, rfl⟩ := h
    refine ⟨⟨.code, c :: word, chain, holes⟩,
      ⟨c :: word, chain, List.forall_mem_cons.mpr ⟨hc, hall⟩, hchain, rfl⟩, ?_⟩
    show State.codeStep _ c = _
    rw [State.codeStep, if_pos hword]
  · have hmark : isMark c = true := by
      simp only [Json.isNumeralChar, Bool.or_eq_true, decide_eq_true_eq, hpoint, or_false] at hc
      rcases hc with ((hc | rfl) | rfl) | rfl
      · exact absurd (isWordChar_of_isAsciiWord (by rw [Text.isAsciiWord, hc]; simp)) hword
      · exact absurd rfl hword
      · rfl
      · rfl
    exact ⟨start holes, ⟨[], .apart, by simp, .inl rfl, rfl⟩, h.loose.step_mark hmark⟩

theorem settles_numerals {cs : List Char} (h : ∀ c ∈ cs, Json.isNumeralChar c = true)
    (holes : List Nat) : Settles holes cs := by
  have hrun {st : State} (hst : Counting holes st) : ∃ st', Counting holes st' ∧ Runs st cs [] st' := by
    induction cs generalizing st with
    | nil => exact ⟨st, hst, .nil st⟩
    | cons c cs ih =>
        obtain ⟨hc, hcs⟩ := List.forall_mem_cons.mp h
        obtain ⟨st', hst', hstep⟩ := hst.step hc
        obtain ⟨st'', hst'', hruns⟩ := ih hcs hst'
        exact ⟨st'', hst'', .cons hstep hruns⟩
  have hstart : Counting holes (start holes) := ⟨[], .apart, by simp, .inl rfl, rfl⟩
  obtain ⟨st, hst, hruns⟩ := hrun hstart
  exact ⟨st, hst.loose, hruns⟩

theorem silent_int (n : Int) : Silent (toString n) := settles_numerals (Json.isNumeralChar_of_mem_int n) []

theorem silent_floatText (x : Binary64) : Silent (Json.floatText x) := by
  rcases Json.floatText_cases x with hname | hnumber
  · have hall : ∀ s ∈ ["NaN", "Infinity", "-Infinity"], isSilent s.toList = true := by decide
    exact silent_of_isSilent (hall _ hname)
  · exact settles_numerals hnumber []

/-! ### Values -/

mutual

theorem silent_compact : (v : Json) → Silent v.compact
  | .null => silent_chars rfl rfl
  | .bool true => silent_chars rfl rfl
  | .bool false => silent_chars rfl rfl
  | .int n => silent_int n
  | .float x => silent_floatText x
  | .str s => (whole_quote s).silent
  | .arr items => by
      rw [Json.compact]
      exact ((whole_chars rfl rfl).around (silent_list (silent_compactItems items))
        (closer_chars rfl rfl)).silent
  | .obj ms => by
      rw [Json.compact]
      exact ((whole_chars rfl rfl).around (silent_list (silent_compactMembers ms))
        (closer_chars rfl rfl)).silent

theorem silent_compactItems : (items : List Json) → ∀ t ∈ Json.compactItems items, Silent t
  | [] => by simp [Json.compactItems]
  | v :: vs => List.forall_mem_cons.mpr ⟨silent_compact v, silent_compactItems vs⟩

theorem silent_compactMembers : (ms : List (String × Json)) → ∀ t ∈ Json.compactMembers ms, Silent t
  | [] => by simp [Json.compactMembers]
  | (k, v) :: ms => List.forall_mem_cons.mpr
      ⟨((whole_quote k).append (whole_chars rfl rfl)).before (silent_compact v), silent_compactMembers ms⟩

end

end Access

end DurableFlow
