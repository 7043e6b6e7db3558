import DurableFlow.Fragment.Envelope
import DurableFlow.Module.Source
import DurableFlow.Proofs.Json.Quoted
import DurableFlow.Proofs.Outcome
import DurableFlow.Proofs.Text.Line

/-!
Where the fragments stand in the source of a module. The class of the workflow has a head, the
indented fragments with an empty line between them, and a foot; the sections before and behind it do
not depend on the fragments.
-/

namespace DurableFlow

namespace Text

/-- In a text, one part ends before another one starts. -/
def Before (text first second : String) : Prop :=
  ∃ before between behind, text = before ++ first ++ between ++ second ++ behind

theorem intercalate_append (sep : String) (front : List String) {rest : List String}
    (h : rest ≠ []) : ∃ before, sep.intercalate (front ++ rest) = before ++ sep.intercalate rest := by
  by_cases hfront : front = []
  · subst hfront
    exact ⟨"", by simp⟩
  · exact ⟨_, String.intercalate_append_of_ne_nil hfront h⟩

theorem intercalate_cons (sep t : String) (rest : List String) :
    ∃ behind, sep.intercalate (t :: rest) = t ++ behind := by
  cases rest with
  | nil => exact ⟨"", by simp⟩
  | cons next rest => exact ⟨_, by rw [String.intercalate_cons_cons, String.append_assoc]⟩

theorem forall_mem_intercalate {P : Char → Prop} {sep : String} (hsep : ∀ c ∈ sep.toList, P c)
    {ts : List String} (h : ∀ t ∈ ts, ∀ c ∈ t.toList, P c) :
    ∀ c ∈ (sep.intercalate ts).toList, P c := by
  induction ts with
  | nil => simp
  | cons t ts ih =>
      have htail := ih fun u hu => h u (List.mem_cons_of_mem t hu)
      cases ts with
      | nil => simpa using h t List.mem_cons_self
      | cons next ts =>
          intro c hc
          rw [String.intercalate_cons_cons, String.toList_append, String.toList_append,
            List.mem_append, List.mem_append] at hc
          rcases hc with (hc | hc) | hc
          · exact h t List.mem_cons_self c hc
          · exact hsep c hc
          · exact htail c hc

theorem before_intercalate (sep : String) {ts : List String} {i j : Nat} {t t' : String}
    (hij : i < j) (hi : ts[i]? = some t) (hj : ts[j]? = some t') :
    Before (sep.intercalate ts) t t' := by
  obtain ⟨hilt, rfl⟩ := List.getElem?_eq_some_iff.mp hi
  obtain ⟨hjlt, rfl⟩ := List.getElem?_eq_some_iff.mp hj
  have hsplit : ts = ts.take i ++ ts[i] ::
      ((ts.drop (i + 1)).take (j - (i + 1)) ++ ts[j] :: ts.drop (j + 1)) := by
    have hrest : ts.drop (i + 1) =
        (ts.drop (i + 1)).take (j - (i + 1)) ++ ts[j] :: ts.drop (j + 1) := by
      conv_lhs => rw [← List.take_append_drop (j - (i + 1)) (ts.drop (i + 1))]
      rw [List.drop_drop, show i + 1 + (j - (i + 1)) = j by omega, List.drop_eq_getElem_cons hjlt]
    rw [← hrest, ← List.drop_eq_getElem_cons hilt, List.take_append_drop]
  obtain ⟨before, hbefore⟩ := intercalate_append sep (ts.take i)
    (List.cons_ne_nil ts[i] ((ts.drop (i + 1)).take (j - (i + 1)) ++ ts[j] :: ts.drop (j + 1)))
  obtain ⟨between, hbetween⟩ := intercalate_append sep ((ts.drop (i + 1)).take (j - (i + 1)))
    (List.cons_ne_nil ts[j] (ts.drop (j + 1)))
  obtain ⟨behind, hbehind⟩ := intercalate_cons sep ts[j] (ts.drop (j + 1))
  refine ⟨before, sep ++ between, behind, ?_⟩
  conv_lhs => rw [hsplit]
  rw [hbefore, String.intercalate_cons_of_ne_nil
    (List.append_ne_nil_of_right_ne_nil _ (List.cons_ne_nil _ _)), hbetween, hbehind]
  simp only [String.append_assoc]

theorem Before.within {text first second : String} (h : Before text first second)
    (before behind : String) : Before (before ++ text ++ behind) first second := by
  obtain ⟨b, m, e, rfl⟩ := h
  exact ⟨before ++ b, m, e ++ behind, by simp only [String.append_assoc]⟩

end Text

/-! ### Lines of code -/

/-- A text without line breaks. -/
def Single (s : String) : Prop := ∀ c ∈ s.toList, ¬Text.isLineBreak c = true

theorem not_isLineBreak_of_isPrintable {c : Char} (h : Json.IsPrintable c) :
    ¬Text.isLineBreak c = true := by
  obtain ⟨hlow, hhigh⟩ := h
  simp only [Text.isLineBreak, Bool.or_eq_true, Bool.and_eq_true, decide_eq_true_eq]
  omega

theorem single_chars {s : String} {cs : List Char} (hs : s = String.ofList cs)
    (h : cs.all (fun c => decide (Json.IsPrintable c)) = true) : Single s := by
  intro c hc
  rw [hs, String.toList_ofList] at hc
  exact not_isLineBreak_of_isPrintable (Json.isPrintable_of_all hc h)

theorem Single.append {s t : String} (hs : Single s) (ht : Single t) : Single (s ++ t) := by
  intro c hc
  rw [String.toList_append] at hc
  rcases List.mem_append.mp hc with hc | hc
  · exact hs c hc
  · exact ht c hc

/-- Some character of the text is not a blank. -/
def Full (s : String) : Prop := s.toList.all Text.isBlank = false

theorem full_chars {s : String} {cs : List Char} (hs : s = String.ofList cs)
    (h : cs.all Text.isBlank = false) : Full s := by
  rw [Full, hs, String.toList_ofList]
  exact h

theorem Full.append {s : String} (h : Full s) (t : String) : Full (s ++ t) := by
  rw [Full, String.toList_append, List.all_append, h, Bool.false_and]

theorem Full.behind {s : String} (h : Full s) (t : String) : Full (t ++ s) := by
  rw [Full, String.toList_append, List.all_append, h, Bool.and_false]

theorem indentBy_single {s : String} (h : Single s) (hfull : Full s) (margin : String) :
    Text.indentBy margin s = margin ++ s := by
  rw [← String.toList_inj, Text.toList_indentBy, String.toList_append]
  exact Text.indentChars_of_single h hfull

theorem indentBy_append {x : String} (h : Single x) (hfull : Full x) (margin y : String) :
    ∃ rest, Text.indentBy margin (x ++ y) = margin ++ x ++ rest := by
  obtain ⟨rest, hrest⟩ := Text.indentChars_append_of_single h hfull y.toList
  refine ⟨String.ofList rest, ?_⟩
  rw [← String.toList_inj, Text.toList_indentBy, String.toList_append, hrest]
  simp only [String.toList_append, String.toList_ofList]

@[simp] theorem toList_quote (s : String) : (Json.quote s).toList = Json.quoteChars s.toList := by
  simp [Json.quote]

theorem single_quote (s : String) : Single (Json.quote s) := by
  intro c hc
  rw [toList_quote] at hc
  exact not_isLineBreak_of_isPrintable (Json.isPrintable_quoteChars hc)

theorem stateEntry_eq (id : String) : stateEntry id = "_workflowState[" ++ Json.quote id ++ "]" := by
  simp [stateEntry, stateEntryAt, stateVariable, Json.compact]

theorem single_stateEntry (id : String) : Single (stateEntry id) := by
  rw [stateEntry_eq]
  exact ((single_chars rfl (by decide)).append (single_quote id)).append
    (single_chars rfl (by decide))

/-- How the assignment of the state of a node starts. -/
def assignment (id : String) : String := stateEntry id ++ " = \x7b input: "

theorem single_assignment (id : String) : Single (assignment id) :=
  (single_stateEntry id).append (single_chars rfl (by decide))

/-! ### Starts of lines -/

namespace Text

/-- The text stands in another one at the start of a line, behind nothing but spaces. -/
def StartsLine (w text : String) : Prop :=
  ∃ margin rest, (∀ c ∈ margin.toList, c = ' ') ∧ Within (margin ++ w ++ rest) text

namespace StartsLine

variable {w text margin rest : String}

theorem block (hmargin : ∀ c ∈ margin.toList, c = ' ') {line : String}
    (hline : line = margin ++ w ++ rest) {lines : List String} (h : line ∈ lines) :
    StartsLine w (Text.block lines) :=
  ⟨margin, rest, hmargin, hline ▸ .block h⟩

theorem occurs (h : StartsLine w text) : Occurs w text := by
  obtain ⟨margin, rest, -, hwithin⟩ := h
  exact List.IsInfix.trans (((Occurs.refl w).append_right margin).append_left rest) hwithin.occurs

/-- What starts a line does so in an indented text, too. -/
theorem indent (h : StartsLine w text) (hw : Single w) (hfull : Full w) :
    StartsLine w (Text.indent text) := by
  obtain ⟨margin, rest, hmargin, hwithin⟩ := h
  have hsingle : Single margin := fun c hc => by
    rw [hmargin c hc]
    decide
  obtain ⟨rest', hrest⟩ := indentBy_append (hsingle.append hw) (hfull.behind margin) "  " rest
  refine ⟨"  " ++ margin, rest', ?_, ?_⟩
  · rw [String.toList_append]
    exact List.forall_mem_append.mpr ⟨by simp, hmargin⟩
  · have hindented := hwithin.indentBy "  "
    rw [hrest] at hindented
    simpa only [Text.indent, String.append_assoc] using hindented

end StartsLine

end Text

/-! ### Fragments -/

namespace Fragment

theorem ofNode_eq_ok {n : Node} {ctx : Context} {f : String}
    (h : (ofNode n ctx).result = .ok f) :
    ∃ b, (body n ctx).result = .ok b ∧ f = wrap n (b.render ctx n) := by
  rw [ofNode] at h
  obtain ⟨b, hb, h⟩ := Outcome.result_bind_eq_ok h
  obtain rfl := Except.ok.inj h
  exact ⟨b, hb, rfl⟩

theorem ofNode_of_body {n : Node} {ctx : Context} {b : Body} (h : (body n ctx).result = .ok b) :
    (ofNode n ctx).result = .ok (wrap n (b.render ctx n)) := by
  rw [ofNode, Outcome.result_bind, h]
  rfl

theorem record_eq (n : Node) (input output : String) :
    Body.record n input output =
      assignment n.id ++ (input ++ ", output: " ++ output ++ " \x7d;") := by
  simp only [Body.record, assignment, braced, String.append_assoc]
  simp [← String.toList_inj]

theorem startsLine_state (ctx : Context) (n : Node) (b : Body) :
    Text.StartsLine (assignment n.id) (b.render ctx n) := by
  cases b with
  | durable lines =>
      have hline : "  " ++ Body.record n "inputData" "result" =
          "  " ++ assignment n.id ++ ("inputData" ++ ", output: " ++ "result" ++ " \x7d;") := by
        rw [record_eq]
        simp only [String.append_assoc]
      exact .block (by simp) hline (by simp)
  | direct setup input output =>
      have hline : Body.record n input output =
          "" ++ assignment n.id ++ (input ++ ", output: " ++ output ++ " \x7d;") := by
        rw [record_eq, String.empty_append]
      exact .block (by simp) hline (by simp)

theorem startsLine_result (ctx : Context) (n : Node) (b : Body) :
    Text.StartsLine (ctx.resultRef n ++ " = ") (b.render ctx n) := by
  cases b with
  | durable lines =>
      have hline : opens (ctx.resultRef n ++ " = await step.do(" ++ Json.quote (ctx.stepName n) ++
          ", async () =>") = "" ++ (ctx.resultRef n ++ " = ") ++
            ("await step.do(" ++ Json.quote (ctx.stepName n) ++ ", async () => \x7b") := by
        simp [opens, ← String.toList_inj]
      exact .block (by simp) hline List.mem_cons_self
  | direct setup input output =>
      have hline : ctx.resultRef n ++ " = " ++ stateEntry n.id ++ ".output;" =
          "" ++ (ctx.resultRef n ++ " = ") ++ (stateEntry n.id ++ ".output;") := by
        simp only [String.empty_append, String.append_assoc]
      exact .block (by simp) hline (by simp)

theorem occurs_ofNode {n : Node} {ctx : Context} {f : String}
    (h : (ofNode n ctx).result = .ok f) : Text.Occurs (assignment n.id) f := by
  obtain ⟨b, -, rfl⟩ := ofNode_eq_ok h
  refine ((startsLine_state ctx n b).occurs.indentBy (single_assignment n.id) "  ").block ?_
  simp [Text.indent]

end Fragment

/-! ### Sources -/

namespace Module

def classHead (className workflow : String) : String :=
  Text.block
    [opens ("export class " ++ className ++ " extends WorkflowEntrypoint"),
     opens "  async run(event, step)",
     runEvent "WF_START" workflow,
     "    const _workflowResults = " ++ emptyObject ++ ";",
     "    const _workflowState = " ++ emptyObject ++ ";",
     "",
     ""]

def classFoot (workflow : String) : String :=
  Text.block
    ["", "", runEvent "WF_END" workflow, "    return _workflowResults;", "  " ++ closes, closes]

def laidOut (fragments : List String) : String :=
  "\n\n".intercalate (fragments.map (Text.indentBy methodMargin))

theorem workflowClass_eq (className workflow : String) (fragments : List String) :
    workflowClass className workflow fragments =
      classHead className workflow ++ laidOut fragments ++ classFoot workflow := by
  rw [workflowClass, Text.indentBy_intercalate, ← laidOut, classHead, classFoot]
  simp only [Text.block, String.intercalate_cons_cons, String.intercalate_singleton,
    ← String.toList_inj, String.toList_append, List.append_assoc]
  simp

def opening (className workflow : String) (tool : Option Node) : String :=
  headLine workflow ++ "\n\n" ++
    Text.block (baseImports ++ (if tool.isSome then toolImports else [])) ++ "\n\n" ++
    classHead className workflow

/-- The sections behind the class of the workflow. -/
inductive ClosingSections (className workflow : String) (outputStep : Json) :
    Option Node → List String → Prop
  | plain : ClosingSections className workflow outputStep none
      [handler "request, env" (handlerLines (bindingName className))]
  | tool {n : Node} {server : String} :
      toolServer className n workflow outputStep = .ok server →
      ClosingSections className workflow outputStep (some n)
        [server, handler "request, env, ctx"
          (toolRoutes (toolClass className) ++ handlerLines (bindingName className))]

def closing (workflow : String) (sections : List String) : String :=
  classFoot workflow ++ "\n\n" ++ "\n\n".intercalate sections ++ "\n"

theorem block_of_getLast {lines : List String} (hlast : lines.getLast? = some "")
    (hne : lines.dropLast ≠ []) : Text.block lines = Text.block lines.dropLast ++ "\n" := by
  have hlines := List.dropLast_append_getLast? "" hlast
  conv_lhs => rw [← hlines]
  rw [Text.block_append hne (List.cons_ne_nil "" [])]
  exact String.append_empty

theorem opening_ends (className workflow : String) (tool : Option Node) :
    ∃ before, opening className workflow tool = before ++ "\n" := by
  have hhead : ∃ before, classHead className workflow = before ++ "\n" :=
    ⟨_, block_of_getLast rfl (List.cons_ne_nil _ _)⟩
  obtain ⟨before, hbefore⟩ := hhead
  rw [opening, hbefore]
  exact ⟨_, (String.append_assoc ..).symm⟩

theorem closing_starts (workflow : String) (sections : List String) :
    ∃ behind, closing workflow sections = "\n" ++ behind := by
  rw [closing, classFoot, Text.block_cons_cons, String.empty_append]
  exact ⟨_, by simp only [String.append_assoc]; rfl⟩

theorem source_eq_ok {fragments : List String} {className workflow : String} {tool : Option Node}
    {outputStep : Json} {text : String}
    (h : source fragments className workflow tool outputStep = .ok text) :
    ∃ sections, ClosingSections className workflow outputStep tool sections ∧
      text = opening className workflow tool ++ laidOut fragments ++ closing workflow sections := by
  cases tool with
  | none =>
      obtain rfl := Except.ok.inj h
      refine ⟨_, .plain, ?_⟩
      simp only [opening, closing, workflowClass_eq, String.intercalate_cons_cons,
        String.intercalate_singleton, String.append_assoc, Option.isSome_none, List.append_nil,
        Bool.false_eq_true, if_false]
  | some n =>
      dsimp only [source] at h
      obtain ⟨server, hserver, h⟩ := bind_eq_ok h
      obtain rfl := Except.ok.inj h
      refine ⟨_, .tool hserver, ?_⟩
      simp only [opening, closing, workflowClass_eq, String.intercalate_cons_cons,
        String.intercalate_singleton, String.append_assoc, Option.isSome_some, if_true]

end Module

end DurableFlow
