import DurableFlow.Proofs.Fragment.Shape
import DurableFlow.Proofs.Module.Comment
import DurableFlow.Proofs.Module.Sections

/-!
The text between two start events. It begins with the end of an event and the body of its node, and
the name of the node's step can be told from it: a durable body and a body that waits call the step
by name before anything else is called, and in the text of any other body there is no call, and the
first result that is assigned is the one of the node.
-/

namespace DurableFlow

namespace Skeleton

/-- The name of a step can be told from a text: it is the name in the first call, or the name of the
first result if there is no call. -/
inductive Tells (name : String) (segment : List Char) : Prop where
  | call (h : first? stepLabel? segment = some (Json.quoteChars name.toList))
  | result (hnone : first? stepLabel? segment = none)
      (h : first? resultName? segment = some name.toList)

def entryOf (n : Node) (step : String) : Entry :=
  ⟨.str n.id, .str n.displayName, .str n.type, some (.str step)⟩

theorem entry_of_tells {n : Node} {name : String} {segment : List Char} (h : Tells name segment) :
    Found.entry ⟨eventOf n, segment⟩ = .ok (entryOf n name) := by
  simp only [Found.entry, eventOf, unquote_quoteChars]
  cases h with
  | call h =>
      simp only [h, unquote_quoteChars]
      rfl
  | result hnone h =>
      simp only [hnone, h, Option.map_some, String.ofList_toList]
      rfl

theorem callSignals_subset : callSignals ⊆ signals := fun _ hw =>
  List.mem_cons_of_mem _ (List.mem_cons_of_mem _ hw)

theorem single_stepCalls : ∀ call ∈ stepCalls, Single call ∧ Full call := by
  unfold stepCalls
  simp only [List.forall_mem_cons, List.not_mem_nil, false_imp_iff, implies_true, and_true]
  refine ⟨⟨?_, ?_⟩, ⟨?_, ?_⟩, ⟨?_, ?_⟩, ⟨?_, ?_⟩⟩
  all_goals first | exact single_chars rfl rfl | exact full_chars rfl rfl

end Skeleton

open Skeleton

namespace Fragment

/-! ### The line by which a step is told -/

theorem quiet_eventEnd : Quiet eventEnd := by
  unfold eventEnd logEnd
  refine (((quiet_empty.between ?_ ?_).append ?_).append fenced_feed).avoids
  all_goals exact fenced_chars rfl rfl

theorem quiet_setIn {code : String} (h : Quiet code) : Quiet (setIn code) :=
  quiet_methodMargin (quiet_indent h)

theorem setIn_append_feed (s t : String) : setIn (s ++ "\n" ++ t) = setIn s ++ "\n" ++ setIn t := by
  rw [setIn, Text.indent, Text.indentBy_append_feed, Text.indentBy_append_feed]
  rfl

/-- Quiet lines at the start of a body, with the end of the event before them. -/
theorem exists_front {front rest : List String} (h : ∀ l ∈ front, Quiet l) (hrest : rest ≠ []) :
    ∃ before, Quiet before ∧ Text.FencedBehind signals before.toList ∧
      eventEnd ++ setIn (Text.block (front ++ rest)) = before ++ setIn (Text.block rest) := by
  have hend : Text.FencedBehind signals eventEnd.toList := by
    rw [eventEnd, String.toList_append]
    exact fenced_feed.behind.append _
  by_cases hfront : front = []
  · exact ⟨eventEnd, quiet_eventEnd, hend, by rw [hfront, List.nil_append]⟩
  · refine ⟨eventEnd ++ setIn (Text.block front) ++ "\n", ?_, ?_, ?_⟩
    · exact (quiet_eventEnd.append (quiet_setIn (quiet_block h)) (.inl hend)).appendFenced
        fenced_feed
    · rw [String.toList_append]
      exact fenced_feed.behind.append _
    · rw [Text.block_append hfront hrest, setIn_append_feed]
      simp only [String.append_assoc]

/-- A step is told by the call of it that stands behind quiet lines. -/
theorem tells_of_call {front rest : List String} {lead call more : String}
    (hfront : ∀ l ∈ front, Quiet l) (hlead : Text.Avoids callSignals lead.toList)
    (hsingle : Single lead) (hcall : call ∈ stepCalls) (name tail : String) :
    Tells name (eventEnd ++ setIn (Text.block
      (front ++ (lead ++ " " ++ call ++ Json.quote name ++ more) :: rest)) ++ tail).toList := by
  obtain ⟨before, hquiet, -, hsplit⟩ := exists_front hfront
    (List.cons_ne_nil (lead ++ " " ++ call ++ Json.quote name ++ more) rest)
  obtain ⟨behind, hblock⟩ := Text.intercalate_cons "\n"
    (lead ++ " " ++ call ++ Json.quote name ++ more) rest
  obtain ⟨hcallSingle, hcallFull⟩ := single_stepCalls call hcall
  have hspace : Single " " := single_chars rfl rfl
  have hregroup (x : String) : x ++ more ++ behind = x ++ (more ++ behind) := String.append_assoc
  obtain ⟨after, hafter⟩ := setIn_append
    (((hsingle.append hspace).append hcallSingle).append (single_quote name))
    ((hcallFull.behind (lead ++ " ")).append (Json.quote name)) (more ++ behind)
  -- The margin keeps what stands before the line and the line apart.
  have hmargin : Text.Fenced callSignals "      ".toList := .of_chars rfl (.of_isFenced rfl)
  have havoids : Text.Avoids callSignals (before ++ "      " ++ lead).toList := by
    rw [String.toList_append, String.toList_append]
    refine ((hquiet.subset callSignals_subset).append hmargin.avoids (.inr hmargin.before)).append
      hlead (.inl (hmargin.behind.append _))
  refine .call ?_
  rw [hsplit, Text.block, hblock, hregroup, hafter]
  have hblank : " ".toList = [' '] := by simp
  have hfound : first? stepLabel? ((before ++ "      " ++ lead).toList ++ [' '] ++
      (call.toList ++ Json.quoteChars name.toList ++ (after ++ tail).toList)) =
      some (Json.quoteChars name.toList) := first?_stepLabel? name.toList havoids hcall
  simpa only [String.toList_append, toList_quote, List.append_assoc, hblank] using hfound

/-- The assignment of the result of a step that recorded its state. -/
def resultLine (id name : String) : String :=
  "_workflowResults." ++ name ++ " = " ++ stateEntry id ++ ".output;"

theorem single_identifier {name : String} (h : Step.IsIdentifier name.toList) : Single name := by
  intro c hc hbreak
  have hword := (Text.isAsciiWord_iff c).mp (h.1 c hc)
  simp only [Text.isLineBreak, Bool.or_eq_true, Bool.and_eq_true, decide_eq_true_eq] at hbreak
  omega

theorem single_resultLine {id name : String} (h : Step.IsIdentifier name.toList) :
    Single (resultLine id name) := by
  unfold resultLine
  refine (((Single.append ?_ (single_identifier h)).append ?_).append
    (single_stateEntry id)).append ?_
  all_goals exact single_chars rfl rfl

theorem fenced_resultLine {id name : String} (hid : Unmarked id)
    (h : Step.IsIdentifier name.toList) : Text.Fenced callSignals (resultLine id name).toList := by
  have hname : Text.Avoids callSignals name.toList := .of_forall rfl h.1
  unfold resultLine
  refine (Text.Fenced.append (.between ?_ hname ?_)
    ((fenced_stateEntry hid).subset callSignals_subset)).append ?_
  all_goals exact .of_chars rfl (.of_isFenced rfl)

theorem resultName?_of_line {before blanks margin mark name equals : String}
    (hmargin : margin.toList = blanks.toList ++ [' ']) (hmark : mark.toList = resultSignal)
    (hequals : equals.toList = [' ', '=', ' ']) (hname : Step.IsIdentifier name.toList)
    (hbefore : Text.Avoids [resultSignal] (before ++ blanks).toList) (more : String) :
    first? resultName? (before ++ margin ++ (mark ++ name ++ equals ++ more)).toList =
      some name.toList := by
  have hfound := first?_resultName? hname hbefore (' ' :: more.toList)
  simpa only [String.toList_append, hmargin, hmark, hequals, List.append_assoc, List.cons_append,
    List.nil_append] using hfound

/-- A step is told by the result that is assigned behind quiet lines, if nothing else is called. -/
theorem tells_of_result {front : List String} (hfront : ∀ l ∈ front, Quiet l) {id name tail : String}
    (hid : Unmarked id) (hname : Step.IsIdentifier name.toList) (htail : Quiet tail) :
    Tells name (eventEnd ++ setIn (Text.block (front ++ [resultLine id name])) ++ tail).toList := by
  obtain ⟨before, hquiet, hend, hsplit⟩ :=
    exists_front hfront (List.cons_ne_nil (resultLine id name) [])
  have hfull : Full (resultLine id name) := by
    unfold resultLine
    simp only [String.append_assoc]
    exact (full_chars rfl rfl).append _
  have hone : Text.block [resultLine id name] = resultLine id name := String.intercalate_singleton
  rw [hone, setIn_single (single_resultLine hname) hfull, ← String.append_assoc] at hsplit
  rw [hsplit]
  refine .result (first?_stepLabel?_eq_none ?_) ?_
  · -- Nothing is called before the line, in it, or behind it.
    have hline := fenced_resultLine hid hname
    have hbefore := (hquiet.appendFenced (b := "      ") (fenced_chars rfl rfl)).subset
      callSignals_subset
    rw [String.toList_append, String.toList_append]
    exact (hbefore.append hline.avoids (.inr hline.before)).append
      (htail.subset callSignals_subset) (.inl (hline.behind.append _))
  · -- The reader wants a blank before a result: the last one of the margin.
    have hbefore : Quiet (before ++ "     ") := hquiet.appendFenced (fenced_chars rfl rfl)
    have hmargin : "      ".toList = "     ".toList ++ [' '] := by simp
    have hequals : " = ".toList = [' ', '=', ' '] := by simp
    have hfound := resultName?_of_line hmargin resultSignal_eq hequals hname
      (hbefore.subset (by simp [signals])) (stateEntry id ++ ".output;" ++ tail)
    unfold resultLine
    simpa only [String.append_assoc] using hfound

/-! ### Bodies -/

variable {g : Graph} {ctx : Context} {n : Node}

theorem resultRef_eq (ctx : Context) (n : Node) :
    ctx.resultRef n = "_workflowResults." ++ ctx.stepName n := by
  have hmark : resultsVariable ++ "." = "_workflowResults." := by simp [resultsVariable]
  rw [Context.resultRef, hmark]

theorem tells_durable (lines : List Code) (hname : Step.IsIdentifier (ctx.stepName n).toList)
    (tail : String) : Tells (ctx.stepName n)
      (eventEnd ++ setIn ((Body.durable lines).render ctx n) ++ tail).toList := by
  have hcall : " = await step.do(" = " = await" ++ " " ++ "step.do(" := by simp
  have hlead : Text.Fenced callSignals
      ("_workflowResults." ++ ctx.stepName n ++ " = await").toList := by
    refine .between ?_ (.of_forall rfl hname.1) ?_
    all_goals exact .of_chars rfl (.of_isFenced rfl)
  have hsingle : Single ("_workflowResults." ++ ctx.stepName n ++ " = await") := by
    refine (Single.append ?_ (single_identifier hname)).append ?_
    all_goals exact single_chars rfl rfl
  have hline : opens (ctx.resultRef n ++ " = await step.do(" ++ Json.quote (ctx.stepName n) ++
      ", async () =>") = ("_workflowResults." ++ ctx.stepName n ++ " = await") ++ " " ++
        "step.do(" ++ Json.quote (ctx.stepName n) ++ opens ", async () =>" := by
    rw [resultRef_eq, hcall, opens, opens]
    simp only [String.append_assoc]
  have hnothing : ∀ l ∈ ([] : List String), Quiet l := by simp
  rw [Body.render, hline]
  exact tells_of_call hnothing hlead.avoids hsingle (by simp [stepCalls]) _ _

theorem render_direct (setup : List String) (input output : String) :
    (Body.direct (Code.texts setup) input output).render ctx n = Text.block
      (setup ++ [Body.record n input output, resultLine n.id (ctx.stepName n)]) := by
  rw [Body.render, Code.map_render_texts, resultRef_eq]
  rfl

/-- The input of a node names at most the state of another node. -/
theorem quiet_input (h : ctx.graph.UnmarkedTexts) (hlinked : ctx.graph.WellLinked) (n : Node) :
    Quiet (ctx.input n) := by
  rw [Context.input]
  split
  · exact quiet_chars rfl rfl
  · rename_i e rest hincoming
    have hmem : e ∈ ctx.graph.incoming n.id := hincoming ▸ List.mem_cons_self
    have hdeclared := hlinked.declares e (List.mem_filter.mp hmem).1
    rw [Graph.declares, Bool.and_eq_true, List.contains_iff_mem] at hdeclared
    obtain ⟨source, hsource, hid⟩ := List.mem_map.mp hdeclared.1
    rw [← hid]
    exact (fenced_stateEntry (h.id source hsource)).append (fenced_chars rfl rfl) |>.avoids

/-- A body that waits calls its step behind quiet lines. -/
theorem tells_waits {b : Body} (h : ctx.graph.UnmarkedTexts) (hlinked : ctx.graph.WellLinked)
    (hb : Waits ctx n b) (tail : String) :
    Tells (ctx.stepName n) (eventEnd ++ setIn (b.render ctx n) ++ tail).toList := by
  obtain ⟨before, behind, lead, call, rest, input, output, rfl, hbefore, hlead, hcall⟩ := hb
  have hquiet : ∀ l ∈ before, Quiet l := by
    intro l hl
    rcases hbefore l hl with rfl | hl
    · exact ((quiet_input h hlinked n).between (fenced_chars rfl rfl) (fenced_chars rfl rfl)).avoids
    · simp only [List.mem_cons, List.not_mem_nil, or_false] at hl
      rcases hl with rfl | rfl | rfl
      · exact quiet_chars rfl rfl
      · exact quiet_chars rfl rfl
      · exact quiet_opens (quiet_chars rfl rfl)
  have hlead : Quiet lead ∧ Single lead := by
    simp only [List.mem_cons, List.not_mem_nil, or_false] at hlead
    rcases hlead with rfl | rfl | rfl
    all_goals exact ⟨quiet_chars rfl rfl, single_chars rfl rfl⟩
  rw [render_direct, List.append_assoc, List.cons_append]
  exact tells_of_call hquiet (hlead.1.subset callSignals_subset) hlead.2 hcall _ _

theorem tells_direct (setup : List String) {input output tail : String}
    (hsetup : ∀ l ∈ setup, Quiet l) (hinput : Quiet input) (houtput : Quiet output)
    (hid : Unmarked n.id) (hname : Step.IsIdentifier (ctx.stepName n).toList) (htail : Quiet tail) :
    Tells (ctx.stepName n)
      (eventEnd ++ setIn ((Body.direct (Code.texts setup) input output).render ctx n) ++
        tail).toList := by
  have hrecord : Quiet (Body.record n input output) := by
    have hfields : Quiet ("input: " ++ input ++ ", output: " ++ output) :=
      houtput.behindFenced (hinput.between (fenced_chars rfl rfl) (fenced_chars rfl rfl))
    unfold Body.record
    refine ((quiet_braced hfields).between ((fenced_stateEntry hid).append ?_) ?_).avoids
    all_goals exact fenced_chars rfl rfl
  have hsplit : setup ++ [Body.record n input output, resultLine n.id (ctx.stepName n)] =
      (setup ++ [Body.record n input output]) ++ [resultLine n.id (ctx.stepName n)] := by simp
  rw [render_direct, hsplit]
  refine tells_of_result (List.forall_mem_append.mpr ⟨hsetup, ?_⟩) hid hname htail
  simpa using hrecord

theorem tells_payload {names : List String} {tail : String} (hnames : ∀ name ∈ names, Unmarked name)
    (hid : Unmarked n.id) (hname : Step.IsIdentifier (ctx.stepName n).toList) (htail : Quiet tail) :
    Tells (ctx.stepName n)
      (eventEnd ++ setIn ((payload names).render ctx n) ++ tail).toList := by
  have hpayload : Quiet "event.payload" := quiet_chars rfl rfl
  rw [payload]
  split
  · exact tells_direct [] (by simp) hpayload hpayload hid hname htail
  · refine tells_direct _ ?_ hpayload (quiet_braced ?_) hid hname htail
    · simp only [List.forall_mem_cons, List.not_mem_nil, false_imp_iff, implies_true, and_true]
      exact (quiet_emptyObject.between (fenced_chars rfl rfl) (fenced_chars rfl rfl)).avoids
    · refine Text.Avoids.intercalate (fenced_chars rfl rfl) fun field hfield => ?_
      obtain ⟨name, hmem, rfl⟩ := List.mem_map.mp hfield
      have hquote := quiet_quote (hnames name hmem)
      have hentry := (hquote.between (a := " ") (b := ": payload[") (fenced_chars rfl rfl)
        (fenced_chars rfl rfl)).between hquote (b := "]") (fenced_chars rfl rfl)
      apply quiet_of_spaced
      simpa only [String.append_assoc] using hentry

theorem tells_passthrough {tail : String} (h : ctx.graph.UnmarkedTexts)
    (hlinked : ctx.graph.WellLinked) (hn : n ∈ ctx.graph.nodes)
    (hname : Step.IsIdentifier (ctx.stepName n).toList) (htail : Quiet tail) :
    Tells (ctx.stepName n)
      (eventEnd ++ setIn ((passthrough n ctx).render ctx n) ++ tail).toList := by
  have hinput := quiet_input h hlinked n
  refine tells_direct _ ?_ hinput hinput (h.id n hn) hname htail
  simp only [List.forall_mem_cons, List.not_mem_nil, false_imp_iff, implies_true, and_true]
  refine (((quiet_quote (h.type n hn)).between ?_ ?_).between (h.id n hn).quiet ?_).avoids
  all_goals exact fenced_chars rfl rfl

/-! ### All types -/

/-- The step of a node can be told from the text behind its start event. -/
theorem tells_body {b : Body} {tail : String} (h : ctx.graph.UnmarkedTexts)
    (hlinked : ctx.graph.WellLinked) (hn : n ∈ ctx.graph.nodes) (hb : Formed n ctx b)
    (hname : Step.IsIdentifier (ctx.stepName n).toList) (htail : Quiet tail) :
    Tells (ctx.stepName n) (eventEnd ++ setIn (b.render ctx n) ++ tail).toList := by
  have hdurable : b.IsDurable →
      Tells (ctx.stepName n) (eventEnd ++ setIn (b.render ctx n) ++ tail).toList := by
    rintro ⟨lines, rfl⟩
    exact tells_durable lines hname tail
  cases hb with
  | plain _ hb => exact hdurable hb.isDurable
  | payload key names htype hnames hb =>
      subst hb
      refine tells_payload ?_ (h.id n hn) hname htail
      simp only [payloadTypes, List.mem_cons, Prod.mk.injEq, List.not_mem_nil, or_false] at htype
      rcases htype with ⟨htype, rfl⟩ | ⟨htype, rfl⟩
      · exact h.entryParameter n hn htype names hnames
      · exact h.inputParameter n hn htype names hnames
  | waits _ hb => exact tells_waits h hlinked hb tail
  | namespaced _ _ _ hb => exact hdurable hb.1
  | database _ hb => exact hdurable hb.1
  | model _ hb =>
      obtain ⟨_, -, hb⟩ := hb
      exact hdurable hb.1
  | unknown _ hb =>
      subst hb
      exact tells_passthrough h hlinked hn hname htail

end Fragment

end DurableFlow
