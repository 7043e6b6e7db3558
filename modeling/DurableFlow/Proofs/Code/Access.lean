import DurableFlow.Proofs.Module.Layout
import DurableFlow.Proofs.Text.Class

/-!
What code reads of its environment. A reader goes through code character by character; it knows words,
quoted texts, template literals with their substitutions, comments and escapes, and takes down every place
where `this.env` stands as code. Blanks at the starts of lines make no difference to it, so it can be
applied before or after indentation, and code that is put together is read part by part.
-/

namespace DurableFlow

/-- A read of the environment as it is written: `this.env.NAME`, `this.env["NAME"]`, or anything else that
starts with `this.env`. -/
inductive Access where
  | member (name : List Char)
  | key (name : List Char)
  | other
  deriving DecidableEq, Repr

namespace Access

/-! ### Tokens -/

/-- What code is made of besides blanks and comments. The characters of a quoted text are known when each
of them stands for itself. -/
inductive Token where
  | word (cs : List Char)
  | mark (c : Char)
  | text (cs : Option (List Char))

/-- What stands before the next token: nothing that counts, a point or two of them, or the part of a read
that is written by then. -/
inductive Chain where
  | apart
  | dotted
  | twice
  | this
  | thisDotted
  | env
  | envDotted
  | envOpened
  | envKey (cs : Option (List Char))
  deriving DecidableEq, Repr

def thisWord : List Char := ['t', 'h', 'i', 's']

def envWord : List Char := ['e', 'n', 'v']

/-- Where a token leads that continues nothing. -/
def Chain.fresh : Token → Chain
  | .word cs => if cs = thisWord then .this else .apart
  | .mark c => if c = '.' then .dotted else .apart
  | .text _ => .apart

/-- The reads that are known with the next token, and what stands before the one behind it. -/
def Chain.next : Chain → Token → List Access × Chain
  | .dotted, .word _ => ([], .apart)
  | .dotted, .mark '.' => ([], .twice)
  | .twice, .mark '.' => ([], .apart)
  | .this, .mark '.' => ([], .thisDotted)
  | .thisDotted, .word cs => ([], if cs = envWord then .env else .apart)
  | .env, .mark '.' => ([], .envDotted)
  | .env, .mark '[' => ([], .envOpened)
  | .env, t => ([.other], fresh t)
  | .envDotted, .word cs => ([.member cs], .apart)
  | .envDotted, t => ([.other], fresh t)
  | .envOpened, .text cs => ([], .envKey cs)
  | .envOpened, t => ([.other], fresh t)
  | .envKey (some cs), .mark ']' => ([.key cs], .apart)
  | .envKey _, t => ([.other], fresh t)
  | _, t => ([], fresh t)

/-! ### Characters -/

/-- What the reader is in: code, or behind a backslash or a slash in it, a comment to the end of the line
or to its end mark, a quoted text, or a template literal. -/
inductive Place where
  | code
  | escape
  | slash
  | line
  | block (starred : Bool)
  | quoted (double : Bool) (cs : Option (List Char))
  | quotedEscape (double : Bool)
  | template
  | templateEscape
  | templateDollar
  deriving DecidableEq, Repr

/-- The word that is being read has its last character first. For each substitution that the reader is in
there is the number of braces that are open in it. -/
structure State where
  place : Place
  word : List Char
  chain : Chain
  holes : List Nat
  deriving DecidableEq, Repr

/-- Letters, digits, the underscore, the dollar sign, and everything beyond ASCII that is no blank. -/
def isWordChar (c : Char) : Bool :=
  Text.isAsciiWord c || c = '$' || (128 ≤ c.toNat && !Text.isBlank c)

def countBrace (c : Char) : List Nat → List Nat
  | [] => []
  | depth :: holes =>
    if c = '\x7b' then (depth + 1) :: holes else if c = '\x7d' then (depth - 1) :: holes
    else depth :: holes

namespace State

/-- The word that was being read counts as a token. -/
def settled (st : State) : List Access × Chain :=
  if st.word = [] then ([], st.chain) else st.chain.next (.word st.word.reverse)

/-- The word ends, and the reader goes on elsewhere. -/
def pause (st : State) (place : Place) : List Access × State :=
  (st.settled.1, ⟨place, [], st.settled.2, st.holes⟩)

/-- The word ends, and another token stands behind it. -/
def feed (st : State) (t : Token) (place : Place) (holes : List Nat) : List Access × State :=
  let p := st.settled.2.next t
  (st.settled.1 ++ p.1, ⟨place, [], p.2, holes⟩)

/-- The reader goes on elsewhere, without a word. -/
def move (st : State) (place : Place) : List Access × State := ([], ⟨place, [], st.chain, st.holes⟩)

def codeStep (st : State) (c : Char) : List Access × State :=
  if isWordChar c then ([], { st with word := c :: st.word })
  else if Text.isBlank c then st.pause .code
  else if c = '"' || c = '\'' then st.pause (.quoted (c = '"') (some []))
  else if c = '/' then st.pause .slash
  else if c = '\\' then st.pause .escape
  else if c = '`' then st.feed (.mark c) .template st.holes
  else if c = '\x7d' && st.holes.head? = some 0 then st.feed (.mark c) .template st.holes.tail
  else st.feed (.mark c) .code (countBrace c st.holes)

def templateStep (st : State) (c : Char) : List Access × State :=
  st.move <|
    if c = '`' then .code
    else if c = '\\' then .templateEscape
    else if c = '$' then .templateDollar
    else .template

/-- Reads a character: what is known then to be read of the environment, and where the reader is. -/
def step (st : State) (c : Char) : List Access × State :=
  match st.place with
  | .code => st.codeStep c
  | .escape => st.move .code
  | .slash =>
    if c = '/' then st.move .line
    else if c = '*' then st.move (.block false)
    else
      let p := st.feed (.mark '/') .code st.holes
      let q := p.2.codeStep c
      (p.1 ++ q.1, q.2)
  | .line => st.move (if Text.isLineBreak c then .code else .line)
  | .block starred => st.move (if starred && c = '/' then .code else .block (c = '*'))
  | .quoted double cs =>
    if c = (if double then '"' else '\'') then st.feed (.text cs) .code st.holes
    else if c = '\\' then st.move (.quotedEscape double)
    else st.move (.quoted double (if Text.isLineBreak c then none else cs.map (· ++ [c])))
  | .quotedEscape double => st.move (.quoted double none)
  | .template => st.templateStep c
  | .templateEscape => st.move .template
  | .templateDollar =>
    if c = '\x7b' then ([], ⟨.code, [], .apart, 0 :: st.holes⟩) else st.templateStep c

def run : State → List Char → List Access × State
  | st, [] => ([], st)
  | st, c :: cs =>
    let p := st.step c
    let q := run p.2 cs
    (p.1 ++ q.1, q.2)

/-- Where a word may start, within these substitutions. -/
def start (holes : List Nat) : State := ⟨.code, [], .apart, holes⟩

end State

/-- The reads of the environment in code, in order, as far as the end of its last line. -/
def ofCode (code : String) : List Access := ((State.start []).run (code ++ "\n;").toList).1

/-! ### Texts one behind the other -/

/-- From the one state to the other, these are the reads in the text. -/
def Runs (st : State) (cs : List Char) (found : List Access) (st' : State) : Prop :=
  st.run cs = (found, st')

namespace Runs

variable {st st' st'' : State} {a b : List Char} {found more : List Access}

theorem nil (st : State) : Runs st [] [] st := rfl

theorem cons {c : Char} (hc : st.step c = (found, st')) (h : Runs st' a more st'') :
    Runs st (c :: a) (found ++ more) st'' := by
  rw [Runs, State.run, hc]
  dsimp only
  rw [h]

theorem single {c : Char} (hc : st.step c = (found, st')) : Runs st [c] found st' := by
  have h := cons hc (nil st')
  rwa [List.append_nil] at h

theorem append (ha : Runs st a found st') (hb : Runs st' b more st'') :
    Runs st (a ++ b) (found ++ more) st'' := by
  induction a generalizing st found with
  | nil =>
      obtain ⟨rfl, rfl⟩ := Prod.mk.inj ha
      exact hb
  | cons c a ih =>
      obtain ⟨rfl, hlast⟩ := Prod.mk.inj ha
      have hrest : Runs (st.step c).2 a (State.run (st.step c).2 a).1 st' := Prod.ext rfl hlast
      rw [List.append_assoc]
      exact cons rfl (ih hrest)

end Runs

/-! ### Indentation -/

def BlankProof (st : State) : Prop := ∀ c, Text.isBlank c = true → st.step c = ([], st)

theorem not_isWordChar_of_isBlank {c : Char} (h : Text.isBlank c = true) : isWordChar c = false := by
  rw [Bool.eq_false_iff]
  intro hword
  simp only [isWordChar, Bool.or_eq_true, Bool.and_eq_true, decide_eq_true_eq] at hword
  rcases hword with (hword | rfl) | hword
  · exact absurd h (Bool.eq_false_iff.mp (Text.not_isBlank_of_isWord (Text.isWord_of_isAsciiWord hword)))
  · exact absurd h (by decide)
  · simp [h] at hword

theorem codeStep_blank (st : State) {c : Char} (h : Text.isBlank c = true) :
    st.codeStep c = st.pause .code := by
  rw [State.codeStep, not_isWordChar_of_isBlank h, if_neg Bool.false_ne_true, if_pos h]

theorem ne_of_isBlank {c d : Char} (h : Text.isBlank c = true) (hd : Text.isBlank d = false) : c ≠ d := by
  rintro rfl
  simp [h] at hd

theorem blankProof_code (chain : Chain) (holes : List Nat) : BlankProof ⟨.code, [], chain, holes⟩ :=
  fun _ hc => codeStep_blank _ hc

theorem blankProof_block (chain : Chain) (holes : List Nat) :
    BlankProof ⟨.block false, [], chain, holes⟩ := by
  intro c hc
  rw [State.step]
  simp [State.move, ne_of_isBlank hc (by decide : Text.isBlank '*' = false)]

theorem templateStep_blank (st : State) {c : Char} (h : Text.isBlank c = true) :
    st.templateStep c = st.move .template := by
  rw [State.templateStep, if_neg (ne_of_isBlank h (by decide)), if_neg (ne_of_isBlank h (by decide)),
    if_neg (ne_of_isBlank h (by decide))]

theorem blankProof_template (chain : Chain) (holes : List Nat) :
    BlankProof ⟨.template, [], chain, holes⟩ :=
  fun _ hc => templateStep_blank _ hc

theorem blankProof_quoted (double : Bool) (chain : Chain) (holes : List Nat) :
    BlankProof ⟨.quoted double none, [], chain, holes⟩ := by
  intro c hc
  have hquote : c ≠ if double then '"' else '\'' := by
    cases double <;> exact ne_of_isBlank hc (by decide)
  rw [State.step]
  simp [State.move, hquote, ne_of_isBlank hc (by decide : Text.isBlank '\\' = false)]

/-- Behind a line break blanks make no difference, wherever the line break stands. -/
theorem blankProof_of_isLineBreak (st : State) {c : Char} (hc : Text.isLineBreak c = true) :
    BlankProof (st.step c).2 := by
  have hblank := Text.isBlank_of_isLineBreak hc
  obtain ⟨place, word, chain, holes⟩ := st
  cases place with
  | code =>
      rw [State.step, codeStep_blank _ hblank]
      exact blankProof_code _ _
  | escape => exact blankProof_code _ _
  | slash =>
      rw [State.step]
      dsimp only
      rw [if_neg (ne_of_isBlank hblank (by decide)), if_neg (ne_of_isBlank hblank (by decide)),
        codeStep_blank _ hblank]
      exact blankProof_code _ _
  | line =>
      rw [State.step]
      dsimp only
      rw [if_pos hc]
      exact blankProof_code _ _
  | block starred =>
      have hstar : c ≠ '*' := ne_of_isBlank hblank (by decide)
      have hslash : c ≠ '/' := ne_of_isBlank hblank (by decide)
      rw [State.step]
      simp only [hslash, hstar, decide_false, Bool.and_false, Bool.false_eq_true, if_false]
      exact blankProof_block _ _
  | quoted double cs =>
      have hslash : c ≠ '\\' := ne_of_isBlank hblank (by decide)
      have hquote : c ≠ if double then '"' else '\'' := by
        cases double <;> exact ne_of_isBlank hblank (by decide)
      rw [State.step]
      dsimp only
      rw [if_neg hquote, if_neg hslash, if_pos hc]
      exact blankProof_quoted _ _ _
  | quotedEscape double => exact blankProof_quoted _ _ _
  | template =>
      rw [State.step]
      dsimp only
      rw [templateStep_blank _ hblank]
      exact blankProof_template _ _
  | templateEscape => exact blankProof_template _ _
  | templateDollar =>
      rw [State.step]
      dsimp only
      rw [if_neg (ne_of_isBlank hblank (by decide)), templateStep_blank _ hblank]
      exact blankProof_template _ _

theorem run_blanks {st : State} (hst : BlankProof st) {margin : List Char}
    (h : margin.all Text.isBlank = true) (cs : List Char) : st.run (margin ++ cs) = st.run cs := by
  induction margin with
  | nil => rfl
  | cons c margin ih =>
      rw [List.all_cons, Bool.and_eq_true] at h
      rw [List.cons_append, State.run, hst c h.1]
      exact ih h.2

/-- Blanks that are put in at the starts of lines make no difference. -/
theorem run_indents {atStart : Bool} {st : State} {cs ds : List Char}
    (h : Text.Indents atStart cs ds) (hst : atStart = true → BlankProof st) :
    st.run ds = st.run cs := by
  induction h generalizing st with
  | nil => rfl
  | @keep _ c cs ds h ih =>
      rw [State.run, State.run, ih fun hc => blankProof_of_isLineBreak st hc]
  | margin hmargin h ih => rw [run_blanks (hst rfl) hmargin, ih Bool.noConfusion]

theorem run_indentBy {margin : String} (hmargin : margin.toList.all Text.isBlank = true) (s : String)
    (holes : List Nat) :
    (State.start holes).run (Text.indentBy margin s).toList = (State.start holes).run s.toList := by
  rw [Text.toList_indentBy]
  exact run_indents (.of_indentation hmargin s.toList) fun _ => blankProof_code _ _

end Access

end DurableFlow
