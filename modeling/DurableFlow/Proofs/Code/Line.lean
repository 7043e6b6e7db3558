import DurableFlow.Proofs.Binding.Name
import DurableFlow.Proofs.Code.Expression
import DurableFlow.Proofs.Fragment.Shape
import DurableFlow.Proofs.Module.Comment

/-!
Lines of code and what they read of the environment. A line is said to read certain resources; its code is
faithful if a reader of its text takes down these reads, in order, and no others. So it is with the body
and the fragment of a node when it is with each line.
-/

namespace DurableFlow

open Fragment

namespace Access

open State (start)

/-! ### Lines -/

/-- The reader takes these down from the text and the line break behind it, and a word may start behind
that. -/
def Reads (found : List Access) (s : String) : Prop :=
  Runs (start []) (s ++ "\n").toList found (start [])

theorem Whole.reads {s : String} (h : Whole s) : Reads [] s := h.append (whole_chars rfl rfl)

theorem reads_chars {s : String} {cs : List Char} (hs : s = String.ofList cs)
    (h : isWhole cs = true) : Reads [] s := (whole_chars hs h).reads

theorem Reads.ofCode_eq {found : List Access} {s : String} (h : Reads found s) : ofCode s = found := by
  have hpoint : Runs (start []) ";".toList [] (start []) := whole_chars rfl rfl
  have hchars : (s ++ "\n;").toList = (s ++ "\n").toList ++ ";".toList := by simp
  rw [ofCode, hchars, Runs.append h hpoint, List.append_nil]

theorem Reads.append {found more : List Access} {s t : String} (hs : Reads found s)
    (ht : Reads more t) : Reads (found ++ more) (s ++ "\n" ++ t) := by
  rw [Reads, String.append_assoc, String.toList_append]
  exact Runs.append hs ht

theorem reads_block {α : Type} {render : α → String} {found : α → List Access} {xs : List α}
    (h : ∀ x ∈ xs, Reads (found x) (render x)) :
    Reads (xs.flatMap found) (Text.block (xs.map render)) := by
  induction xs with
  | nil => exact whole_empty.reads
  | cons x xs ih =>
      obtain ⟨hx, hxs⟩ := List.forall_mem_cons.mp h
      cases xs with
      | nil => simpa [Text.block] using hx
      | cons next xs =>
          rw [List.map_cons, List.map_cons, Text.block_cons_cons, List.flatMap_cons]
          exact hx.append (ih hxs)

theorem reads_lines {lines : List String} (h : ∀ l ∈ lines, Reads [] l) : Reads [] (Text.block lines) := by
  have hall : Reads (lines.flatMap fun _ => []) (Text.block (lines.map id)) := reads_block h
  rwa [List.map_id, List.flatMap_eq_nil_iff.mpr fun _ _ => rfl] at hall

theorem Reads.indent {found : List Access} {s : String} (h : Reads found s) :
    Reads found (Text.indent s) := by
  have hfeed : Text.indent s ++ "\n" = Text.indentBy "  " (s ++ "\n") := by
    have happend := Text.indentBy_append_feed "  " s ""
    simpa [Text.indentBy_empty, Text.indent] using happend.symm
  rw [Reads, hfeed]
  exact (run_indentBy (by decide) _ []).trans h

/-- A comment ends with its line. -/
theorem reads_comment {s : String} (h : Single s) : Reads [] ("// " ++ s) := by
  have hline : ∀ {cs : List Char}, (∀ c ∈ cs, ¬Text.isLineBreak c = true) →
      Runs ⟨.line, [], .apart, []⟩ cs [] ⟨.line, [], .apart, []⟩ := by
    intro cs hcs
    induction cs with
    | nil => exact .nil _
    | cons c cs ih =>
        obtain ⟨hc, hcs⟩ := List.forall_mem_cons.mp hcs
        have hstep : State.step ⟨.line, [], .apart, []⟩ c = ([], ⟨.line, [], .apart, []⟩) := by
          rw [State.step]
          dsimp only
          rw [if_neg hc]
          rfl
        exact .cons hstep (ih hcs)
  have hopen : Runs (start []) ['/', '/', ' '] [] ⟨.line, [], .apart, []⟩ := rfl
  have hbreak : Runs ⟨.line, [], .apart, []⟩ ['\n'] [] (start []) := rfl
  have hchars : ("// " ++ s ++ "\n").toList = ['/', '/', ' '] ++ (s.toList ++ ['\n']) := by simp
  rw [Reads, hchars]
  exact hopen.append ((hline h).append hbreak)

/-! ### Values on one line -/

mutual

theorem single_compact : (v : Json) → Single v.compact
  | .null => single_chars rfl rfl
  | .bool true => single_chars rfl rfl
  | .bool false => single_chars rfl rfl
  | .int n => fun c hc => not_isLineBreak_of_isPrintable (Json.isPrintable_of_mem_int n c hc)
  | .float x => fun c hc => not_isLineBreak_of_isPrintable (Json.isPrintable_of_mem_floatText x c hc)
  | .str s => single_quote s
  | .arr items => by
      rw [Json.compact]
      refine (Single.append (single_chars rfl rfl) ?_).append (single_chars rfl rfl)
      exact Text.forall_mem_intercalate (single_chars rfl rfl) (single_compactItems items)
  | .obj ms => by
      rw [Json.compact]
      refine (Single.append (single_chars rfl rfl) ?_).append (single_chars rfl rfl)
      exact Text.forall_mem_intercalate (single_chars rfl rfl) (single_compactMembers ms)

theorem single_compactItems : (items : List Json) → ∀ t ∈ Json.compactItems items, Single t
  | [] => by simp [Json.compactItems]
  | v :: vs => List.forall_mem_cons.mpr ⟨single_compact v, single_compactItems vs⟩

theorem single_compactMembers : (ms : List (String × Json)) → ∀ t ∈ Json.compactMembers ms, Single t
  | [] => by simp [Json.compactMembers]
  | (k, v) :: ms => List.forall_mem_cons.mpr
      ⟨((single_quote k).append (single_chars rfl rfl)).append (single_compact v),
        single_compactMembers ms⟩

end

/-! ### Reads -/

/-- How a resource is read: the model as a member of the environment, any other by its quoted name. -/
def ofResource (resource : String × String) : Access :=
  if resource.1 = "ai" then .member resource.2.toList else .key resource.2.toList

theorem escapeChar_of_isAsciiWord {c : Char} (h : Text.isAsciiWord c = true) :
    Json.escapeChar c = [c] := by
  have hcode := (Text.isAsciiWord_iff c).mp h
  have hother : ∀ d : Char, ¬Text.isAsciiWord d = true → c ≠ d := fun d hd heq => hd (heq ▸ h)
  rw [Json.escapeChar, if_neg (hother _ (by decide)), if_neg (hother _ (by decide)),
    if_neg (hother _ (by decide)), if_neg (hother _ (by decide)), if_neg (hother _ (by decide)),
    if_neg (by omega), if_neg (by omega), if_pos (by simp; omega)]

theorem quoteChars_of_isSafe {name : String} (h : IsSafe name) :
    Json.quoteChars name.toList = '"' :: (name.toList ++ ['"']) := by
  have hplain : name.toList.flatMap Json.escapeChar = name.toList := by
    rw [List.flatMap_congr fun c hc => escapeChar_of_isAsciiWord (h.2 c hc)]
    exact List.flatMap_singleton' _
  rw [Json.quoteChars, hplain]

theorem runs_quoted {cs : List Char} (h : ∀ c ∈ cs, Text.isAsciiWord c = true) (front : List Char)
    (chain : Chain) : Runs ⟨.quoted true (some front), [], chain, []⟩ cs []
      ⟨.quoted true (some (front ++ cs)), [], chain, []⟩ := by
  induction cs generalizing front with
  | nil =>
      rw [List.append_nil]
      exact .nil _
  | cons c cs ih =>
      obtain ⟨hc, hcs⟩ := List.forall_mem_cons.mp h
      have hbreak := Text.not_isLineBreak_of_not_isBlank
        (Text.not_isBlank_of_isWord (Text.isWord_of_isAsciiWord hc))
      have hother : ∀ d : Char, ¬Text.isAsciiWord d = true → c ≠ d := fun d hd heq => hd (heq ▸ hc)
      have hstep : State.step ⟨.quoted true (some front), [], chain, []⟩ c =
          ([], ⟨.quoted true (some (front ++ [c])), [], chain, []⟩) := by
        rw [State.step]
        dsimp only
        rw [if_pos rfl, if_neg (hother _ (by decide)), if_neg (hother _ (by decide)), if_neg hbreak]
        rfl
      rw [List.append_cons]
      exact .cons hstep (ih hcs (front ++ [c]))

/-- A resource that something is called of is read once. -/
theorem runs_resource {name : String} (kind : String) (hname : IsSafe name) {rest : List Char}
    (h : Runs (start []) ('.' :: rest) [] (start [])) :
    Runs (start []) ((CodePart.env kind name).render.toList ++ '.' :: rest) [ofResource (kind, name)]
      (start []) := by
  rw [CodePart.render, ofResource]
  by_cases hkind : kind = "ai"
  · have hopen : Runs (start []) "this.env.".toList [] ⟨.code, [], .envDotted, []⟩ := rfl
    have hword := runs_word (fun c hc => isWordChar_of_isAsciiWord (hname.2 c hc)) [] .envDotted []
    have hne : name.toList.reverse ++ [] ≠ [] := by simpa using hname.1
    have hpoint : State.step ⟨.code, name.toList.reverse ++ [], .envDotted, []⟩ '.' =
        ([.member name.toList], ⟨.code, [], .dotted, []⟩) := by
      show State.feed _ (.mark '.') .code [] = _
      rw [State.feed, State.settled, if_neg hne, List.append_nil, List.reverse_reverse]
      rfl
    have hrest : Runs ⟨.code, [], .dotted, []⟩ rest [] (start []) := h
    rw [if_pos hkind, if_pos hkind, String.toList_append, List.append_assoc]
    exact hopen.append (hword.append (.cons hpoint hrest))
  · have hopen : Runs (start []) "this.env[".toList [] ⟨.code, [], .envOpened, []⟩ := rfl
    have hquote : State.step ⟨.code, [], .envOpened, []⟩ '"' =
        ([], ⟨.quoted true (some []), [], .envOpened, []⟩) := rfl
    have hend : State.step ⟨.quoted true (some ([] ++ name.toList)), [], .envOpened, []⟩ '"' =
        ([], ⟨.code, [], .envKey (some name.toList), []⟩) := rfl
    have hclose : State.step ⟨.code, [], .envKey (some name.toList), []⟩ ']' =
        ([.key name.toList], start []) := rfl
    have hchars : ("this.env[" ++ Json.quote name ++ "]").toList ++ '.' :: rest =
        "this.env[".toList ++ '"' :: (name.toList ++ '"' :: ']' :: '.' :: rest) := by
      simp [quoteChars_of_isSafe hname]
    rw [if_neg hkind, if_neg hkind, hchars]
    exact hopen.append (.cons hquote ((runs_quoted hname.2 [] .envOpened).append
      (.cons hend (.cons hclose h))))

end Access

open Access
open Access.State (start)

/-! ### Code that reads what it is said to read -/

/-- The reader takes down from the line what the line is said to read. -/
def Code.Faithful (c : Code) : Prop := Reads (c.reads.map ofResource) c.render

/-- So it does from every line of the body; the expressions for input and output read nothing. -/
def Body.Faithful : Body → Prop
  | durable lines => ∀ c ∈ lines, c.Faithful
  | direct setup input output => (∀ c ∈ setup, c.Faithful) ∧ Silent input ∧ Silent output

namespace Code

theorem faithful_texts {lines : List String} (h : ∀ l ∈ lines, Reads [] l) :
    ∀ c ∈ texts lines, c.Faithful := by
  intro c hc
  obtain ⟨l, hl, rfl⟩ := List.mem_map.mp hc
  rw [Faithful, render_text]
  exact h l hl

theorem render_call (before kind name behind : String) :
    render [.text before, .env kind name, .text behind] =
      before ++ (CodePart.env kind name).render ++ behind := by
  rw [render, List.map_cons, List.map_cons, List.map_cons, List.map_nil, String.join_cons,
    String.join_cons, String.join_cons, String.join_nil, String.append_empty, CodePart.render,
    CodePart.render, String.append_assoc]

theorem faithful_call {before behind : String} (kind : String) {name : String} (hbefore : Whole before)
    (hname : IsSafe name) (hbehind : Whole behind) (hpoint : behind.toList.head? = some '.') :
    Faithful [.text before, .env kind name, .text behind] := by
  obtain ⟨rest, hrest⟩ := List.head?_eq_some_iff.mp hpoint
  rw [Whole, hrest] at hbehind
  have hbreak : Runs (start []) "\n".toList [] (start []) := whole_chars rfl rfl
  rw [Faithful, Reads, render_call, String.append_assoc, String.append_assoc, String.toList_append,
    String.toList_append, String.toList_append, hrest, ← List.append_assoc _ _ "\n".toList]
  exact Runs.append hbefore ((runs_resource kind hname hbehind).append hbreak)

end Code

/-! ### Bodies and fragments -/

/-- The steps of the graph have names that are identifiers. -/
def Context.Named (ctx : Context) : Prop := ∀ p ∈ ctx.stepNames, Step.IsIdentifier p.2.toList

theorem Context.named_ofGraph (g : Graph) (c : Catalog) (s : CompilerSettings) :
    (Context.ofGraph g c s).Named :=
  Step.isIdentifier_of_mem_namesFrom (by simp)

variable {ctx : Context} {n : Node}

namespace Context.Named

theorem steps (h : ctx.Named) : ∀ step ∈ ctx.resolver.steps, Step.IsIdentifier step.toList := by
  intro step hstep
  obtain ⟨p, hp, rfl⟩ := List.mem_map.mp hstep
  exact h p hp

theorem isWordChar_stepName (h : ctx.Named) (n : Node) :
    ∀ c ∈ (ctx.stepName n).toList, isWordChar c = true := by
  rw [Context.stepName]
  cases hlookup : ctx.stepNames.lookup n.id with
  | none => simp
  | some name =>
      obtain ⟨front, back, hnames, -⟩ := List.lookup_eq_some_iff.mp hlookup
      have hname := h (n.id, name) (hnames ▸ by simp)
      exact fun c hc => isWordChar_of_isAsciiWord (hname.1 c hc)

theorem silent_resultRef (h : ctx.Named) (n : Node) : Silent (ctx.resultRef n) := by
  have hroot : Runs (start []) "_workflowResults.".toList [] ⟨.code, [], .dotted, []⟩ := rfl
  have hname := runs_word (h.isWordChar_stepName n) [] .dotted []
  have href : ctx.resultRef n = "_workflowResults." ++ ctx.stepName n := by
    simp [Context.resultRef, resultsVariable]
  rw [href, Silent, String.toList_append]
  exact ⟨_, ⟨_, .dotted, trivial, rfl⟩, hroot.append hname⟩

end Context.Named

theorem whole_stateEntry (id : String) : Whole (stateEntry id) := by
  rw [stateEntry_eq]
  exact (Whole.append (whole_chars rfl rfl) (whole_quote id)).append (whole_chars rfl rfl)

theorem silent_input (ctx : Context) (n : Node) : Silent (ctx.input n) := by
  rw [Context.input]
  split
  · exact silent_chars rfl rfl
  · exact (whole_stateEntry _).before (silent_chars rfl rfl)

namespace Body

theorem whole_record (n : Node) {input output : String} (hinput : Silent input)
    (houtput : Silent output) : Whole (record n input output) := by
  have hfields : Silent ("input: " ++ input ++ ", output: " ++ output) :=
    ((whole_chars rfl rfl).around hinput (closer_chars rfl rfl)).before houtput
  exact (((whole_stateEntry n.id).append (whole_chars rfl rfl)).append (whole_braced hfields)).append
    (whole_chars rfl rfl)

theorem reads_render (hctx : ctx.Named) (n : Node) {b : Body} (h : b.Faithful) :
    Reads (b.reads.map ofResource) (b.render ctx n) := by
  cases b with
  | durable lines =>
      have hopens : Whole (opens (ctx.resultRef n ++ " = await step.do(" ++
          Json.quote (ctx.stepName n) ++ ", async () =>")) :=
        whole_opens ((((hctx.silent_resultRef n).closed (closer_chars rfl rfl)).append
          (whole_quote _)).before (silent_chars rfl rfl))
      have hinput : Whole ("  const inputData = " ++ ctx.input n ++ ";") :=
        (whole_chars rfl rfl).around (silent_input ctx n) (closer_chars rfl rfl)
      have hlines : Reads (lines.flatMap fun c => c.reads.map ofResource)
          (Text.indent (Text.block (lines.map Code.render))) := (reads_block h).indent
      have hrecord : Whole ("  " ++ record n "inputData" "result") :=
        Whole.append (whole_chars rfl rfl)
          (whole_record n (silent_chars rfl rfl) (silent_chars rfl rfl))
      have hreturn : Whole "  return result;" := whole_chars rfl rfl
      have hcloses : Whole (closes ++ ");") := whole_closes.append (whole_chars rfl rfl)
      have hall := hopens.reads.append (hinput.reads.append (hlines.append
        (hrecord.reads.append (hreturn.reads.append hcloses.reads))))
      have hlast : Text.block [closes ++ ");"] = closes ++ ");" := String.intercalate_singleton
      rw [reads, List.map_flatMap, render]
      simp only [Text.block_cons_cons _ _ (_ :: _), Text.block_cons_cons _ _ [], hlast]
      simpa using hall
  | direct setup input output =>
      obtain ⟨hsetup, hinput, houtput⟩ := h
      have hresult : Whole (ctx.resultRef n ++ " = " ++ stateEntry n.id ++ ".output;") :=
        (((hctx.silent_resultRef n).closed (closer_chars rfl rfl)).append
          (whole_stateEntry n.id)).append (whole_chars rfl rfl)
      have hlast : ∀ c ∈ Code.texts [record n input output,
          ctx.resultRef n ++ " = " ++ stateEntry n.id ++ ".output;"], c.Faithful :=
        Code.faithful_texts (by simpa using ⟨(whole_record n hinput houtput).reads, hresult.reads⟩)
      have hall := reads_block (List.forall_mem_append.mpr ⟨hsetup, hlast⟩)
      rw [List.map_append, Code.map_render_texts, ← List.map_flatMap, List.flatMap_append,
        Code.reads_texts, List.append_nil] at hall
      exact hall

end Body

namespace Fragment

theorem whole_logEvent (event : String) (n : Node) {extra : String}
    (h : Silent (", timestamp: Date.now(), instanceId: event.instanceId" ++ extra)) :
    Whole (logEvent event n extra) := by
  have hbehind {a label : String} (ha : Whole a) (hlabel : Whole label) (s : String) :
      Whole (a ++ label ++ Json.quote s) := (ha.append hlabel).append (whole_quote s)
  have hevent : Whole ("type: " ++ Json.quote event) := .append (whole_chars rfl rfl) (whole_quote event)
  have hid : Whole ("type: " ++ Json.quote event ++ ", nodeId: " ++ Json.quote n.id) :=
    hbehind hevent (whole_chars rfl rfl) n.id
  have htexts : Whole ("type: " ++ Json.quote event ++ ", nodeId: " ++ Json.quote n.id ++
      ", nodeName: " ++ Json.quote n.displayName ++ ", nodeType: " ++ Json.quote n.type) :=
    hbehind (hbehind hid (whole_chars rfl rfl) n.displayName) (whole_chars rfl rfl) n.type
  have hfields : Silent ("type: " ++ Json.quote event ++ ", nodeId: " ++ Json.quote n.id ++
      ", nodeName: " ++ Json.quote n.displayName ++ ", nodeType: " ++ Json.quote n.type ++
      ", timestamp: Date.now(), instanceId: event.instanceId" ++ extra) := by
    rw [String.append_assoc]
    exact htexts.before h
  exact .append (.append (whole_chars rfl rfl) (whole_braced hfields)) (whole_chars rfl rfl)

theorem reads_event (event : String) (n : Node) {extra : String}
    (h : Silent (", timestamp: Date.now(), instanceId: event.instanceId" ++ extra)) :
    Reads [] (Text.indent (logEvent event n extra)) := (whole_logEvent event n h).reads.indent

theorem reads_markerComment {n : Node} (hmarker : Single (marker n)) (start : String) (h : Single start) :
    Reads [] ("// " ++ start ++ marker n ++ " ===") := by
  have hend : Single " ===" := single_chars rfl rfl
  have hcomment := reads_comment ((h.append hmarker).append hend)
  rwa [← String.append_assoc, ← String.append_assoc] at hcomment

/-- The envelope of a fragment reads nothing, if its comments are lines. -/
theorem reads_wrap {n : Node} (hmarker : Single (marker n)) {found : List Access} {code : String}
    (h : Reads found code) : Reads found (wrap n code) := by
  have hstart : Reads [] ("// === NODE START: " ++ marker n ++ " ===") := by
    simpa only [String.reduceAppend] using
      reads_markerComment hmarker "=== NODE START: " (single_chars rfl rfl)
  have hend : Reads [] ("// === NODE END: " ++ marker n ++ " ===") := by
    simpa only [String.reduceAppend] using
      reads_markerComment hmarker "=== NODE END: " (single_chars rfl rfl)
  have hstarted : Reads [] (Text.indent (logEvent "WF_NODE_START" n "")) := by
    refine reads_event _ n ?_
    rw [String.append_empty]
    exact silent_chars rfl rfl
  have hended : Reads [] (Text.indent (logEvent "WF_NODE_END" n ", success: true")) := by
    refine reads_event _ n ?_
    simp only [String.reduceAppend]
    exact silent_chars rfl rfl
  have hfailed : Reads []
      (Text.indent (logEvent "WF_NODE_ERROR" n ", success: false, error: errorMessage")) := by
    refine reads_event _ n ?_
    simp only [String.reduceAppend]
    exact silent_chars rfl rfl
  have hfront : ∀ l ∈ ["// === NODE START: " ++ marker n ++ " ===", opens "try",
      Text.indent (logEvent "WF_NODE_START" n "")], Reads [] l := by
    simp only [List.forall_mem_cons, List.not_mem_nil, false_imp_iff, implies_true, and_true]
    exact ⟨hstart, Whole.reads (whole_opens (silent_chars rfl rfl)), hstarted⟩
  have hback : ∀ l ∈ [Text.indent (logEvent "WF_NODE_END" n ", success: true"),
      reopens "catch (error)",
      "  const errorMessage = error instanceof Error ? error.message : String(error);",
      Text.indent (logEvent "WF_NODE_ERROR" n ", success: false, error: errorMessage"),
      "  throw error;", closes, "// === NODE END: " ++ marker n ++ " ==="], Reads [] l := by
    simp only [List.forall_mem_cons, List.not_mem_nil, false_imp_iff, implies_true, and_true]
    exact ⟨hended, Whole.reads (whole_reopens (silent_chars rfl rfl)), reads_chars rfl rfl, hfailed,
      reads_chars rfl rfl, whole_closes.reads, hend⟩
  have hall := (reads_lines hfront).append (h.indent.append (reads_lines hback))
  rw [← Text.block_cons_cons, ← Text.block_append (List.cons_ne_nil _ _) (List.cons_ne_nil _ _)] at hall
  simpa [wrap] using hall

end Fragment

end DurableFlow
