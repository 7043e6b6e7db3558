import DurableFlow.Compile
import DurableFlow.Proofs.Module.Layout
import DurableFlow.Proofs.Module.Scan

/-!
The parts of a source that a reader must not mistake for an event or a step. When no mark stands in
the texts of a graph, no signal stands in what is written around the bodies of its nodes.
-/

namespace DurableFlow

namespace Skeleton

/-! ### Marks -/

/-- What must not stand in the texts of a graph, for its module to be read back. -/
def marks : List String := "WF_NODE_START" :: "_workflowResults." :: stepCalls

def Unmarked (s : String) : Prop := ∀ m ∈ marks, ¬Text.Occurs m s

/-- No mark stands in a value: in the text that it is, or in what is written for it. -/
def UnmarkedValue : Json → Prop
  | .str s => Unmarked s
  | v => Unmarked v.compact

def Quiet (s : String) : Prop := Text.Avoids signals s.toList

def eventName : List Char := ['W', 'F', '_', 'N', 'O', 'D', 'E', '_', 'S', 'T', 'A', 'R', 'T']

def markChars : List (List Char) := eventName :: resultSignal :: callSignals

theorem marks_eq : marks.map String.toList = markChars := by
  rw [marks, List.map_cons, List.map_cons, callSignals_eq, resultSignal_eq]
  simp [markChars, eventName]

theorem unmarked_iff (s : String) : Unmarked s ↔ Text.Avoids markChars s.toList := by
  rw [← marks_eq]
  simp [Unmarked, Text.Avoids, Text.Occurs]

theorem quiet_of_avoids_marks {s : String} (h : Text.Avoids markChars s.toList) : Quiet s := by
  refine h.mono ?_
  have hevery : ∀ w' ∈ signals, ∃ w ∈ markChars, w <:+: w' := by decide
  exact hevery

theorem Unmarked.quiet {s : String} (h : Unmarked s) : Quiet s :=
  quiet_of_avoids_marks ((unmarked_iff s).mp h)

theorem isPlain_of_mem_markChars : ∀ w ∈ markChars, Text.isPlain w = true := by decide

theorem quiet_quote {s : String} (h : Unmarked s) : Quiet (Json.quote s) :=
  quiet_of_avoids_marks (((unmarked_iff s).mp h).quote isPlain_of_mem_markChars)

theorem UnmarkedValue.quiet {v : Json} (h : UnmarkedValue v) : Quiet v.compact := by
  cases v with
  | str s => exact quiet_quote h
  | _ => exact Unmarked.quiet h

theorem fenced_space_marks : Text.Fenced markChars [' '] := .of_isFenced rfl

theorem Unmarked.singleLine {s : String} (h : Unmarked s) : Unmarked (Text.singleLine s) :=
  (unmarked_iff _).mpr (((unmarked_iff s).mp h).singleLine fenced_space_marks)

theorem Unmarked.between {a b t : String} (ht : Unmarked t) (ha : Text.Fenced markChars a.toList)
    (hb : Text.Fenced markChars b.toList) : Unmarked (a ++ t ++ b) :=
  (unmarked_iff _).mpr (ha.between ((unmarked_iff t).mp ht) hb).avoids

theorem UnmarkedValue.orElse {v : Json} {s : String} (hv : UnmarkedValue v) (hs : Unmarked s) :
    UnmarkedValue (v.orElse (.str s)) := by
  rw [Json.orElse]
  split
  · exact hv
  · exact hs

/-! ### Quiet texts -/

/-- A text that is spelled out is fenced if it proves to be so. -/
theorem fenced_chars {s : String} {cs : List Char} (hs : s = String.ofList cs)
    (h : Text.isFenced signals cs = true) : Text.Fenced signals s.toList :=
  Text.Fenced.of_chars hs (.of_isFenced h)

theorem quiet_chars {s : String} {cs : List Char} (hs : s = String.ofList cs)
    (h : Text.startsNone signals (cs ++ [' ']) = true) : Quiet s :=
  Text.avoids_of_spaced hs h

theorem unmarked_chars {s : String} {cs : List Char} (hs : s = String.ofList cs)
    (h : Text.startsNone markChars (cs ++ [' ']) = true) : Unmarked s :=
  (unmarked_iff s).mpr (Text.avoids_of_spaced hs h)

theorem Quiet.between {a b t : String} (ht : Quiet t) (ha : Text.Fenced signals a.toList)
    (hb : Text.Fenced signals b.toList) : Text.Fenced signals (a ++ t ++ b).toList :=
  ha.between ht hb

theorem Quiet.append {a b : String} (ha : Quiet a) (hb : Quiet b)
    (h : Text.FencedBehind signals a.toList ∨ Text.FencedBefore signals b.toList) :
    Quiet (a ++ b) := by
  rw [Quiet, String.toList_append]
  exact Text.Avoids.append ha hb h

theorem Quiet.appendFenced {a b : String} (ha : Quiet a) (hb : Text.Fenced signals b.toList) :
    Quiet (a ++ b) :=
  ha.append hb.avoids (.inr hb.before)

theorem Quiet.behindFenced {a b : String} (hb : Quiet b) (ha : Text.Fenced signals a.toList) :
    Quiet (a ++ b) :=
  Quiet.append ha.avoids hb (.inl ha.behind)

/-- What is fenced behind a space is quiet by itself. -/
theorem quiet_of_spaced {t : String} (h : Text.Fenced signals (" " ++ t).toList) : Quiet t := by
  rw [String.toList_append] at h
  exact h.avoids.part (List.suffix_append _ t.toList).isInfix

theorem fenced_feed : Text.Fenced signals "\n".toList := fenced_chars rfl rfl

theorem quiet_block {lines : List String} (h : ∀ l ∈ lines, Quiet l) : Quiet (Text.block lines) :=
  Text.Avoids.intercalate fenced_feed h

theorem solid_of_mem_signals : ∀ w ∈ signals, w.all (fun c => !Text.isBlank c) = true := by
  decide

theorem Quiet.indentBy {t margin : String} (h : Quiet t)
    (hmargin : margin.toList.all Text.isBlank = true) : Quiet (Text.indentBy margin t) :=
  Text.Avoids.indentBy solid_of_mem_signals hmargin h

theorem quiet_opens {t : String} (h : Quiet t) : Quiet (opens t) :=
  h.appendFenced (fenced_chars rfl rfl)

theorem fenced_closes : Text.Fenced signals closes.toList := by
  unfold closes
  exact fenced_chars rfl rfl

theorem quiet_reopens {t : String} (h : Quiet t) : Quiet (reopens t) :=
  (quiet_opens h).behindFenced (fenced_closes.append (fenced_chars rfl rfl))

theorem fenced_braced {t : String} (h : Quiet t) : Text.Fenced signals (braced t).toList :=
  h.between (fenced_chars rfl rfl) (fenced_chars rfl rfl)

theorem quiet_braced {t : String} (h : Quiet t) : Quiet (braced t) :=
  (fenced_braced h).avoids

theorem quiet_emptyObject : Quiet emptyObject := by
  unfold emptyObject
  exact quiet_chars rfl rfl

theorem quiet_empty : Quiet "" := quiet_chars rfl rfl

theorem fenced_stateEntry {id : String} (h : Unmarked id) :
    Text.Fenced signals (stateEntry id).toList := by
  rw [stateEntry_eq]
  exact (quiet_quote h).between (fenced_chars rfl rfl)
    (fenced_chars rfl rfl)

end Skeleton

open Skeleton

/-! ### Texts of a graph -/

/-- No mark stands in what a graph calls its nodes, parameters and tools. -/
structure Graph.UnmarkedTexts (g : Graph) : Prop where
  id : ∀ n ∈ g.nodes, Unmarked n.id
  type : ∀ n ∈ g.nodes, Unmarked n.type
  label : ∀ n ∈ g.nodes, ∀ label, n.data.label = some label → Unmarked label
  entryParameter : ∀ n ∈ g.nodes, n.type = "entry" → ∀ names,
    Fragment.parameterNames (n.setting "params") = .ok names → ∀ name ∈ names, Unmarked name
  inputParameter : ∀ n ∈ g.nodes, n.type = toolInputType → ∀ names,
    Fragment.parameterNames (n.setting "parameters") = .ok names → ∀ name ∈ names, Unmarked name
  toolParameter : ∀ n ∈ g.nodes, n.type = toolInputType → ∀ ps, Tool.parameters n = .ok ps →
    ∀ p ∈ ps, UnmarkedValue p.name ∧ UnmarkedValue (p.get "description")
  toolName : ∀ n ∈ g.nodes, n.type = toolInputType → UnmarkedValue (n.setting "toolName")
  toolDescription : ∀ n ∈ g.nodes, n.type = toolInputType →
    UnmarkedValue (n.setting "description")

theorem firstGiven_mem (s : String) (rest : List String) : firstGiven (s :: rest) ∈ s :: rest := by
  induction rest generalizing s with
  | nil => exact List.mem_cons_self
  | cons t rest ih =>
      rw [firstGiven]
      split
      · exact List.mem_cons_of_mem s (ih t)
      · exact List.mem_cons_self
      · simp

theorem unmarked_empty : Unmarked "" := unmarked_chars rfl rfl

theorem Graph.UnmarkedTexts.displayName {g : Graph} (h : g.UnmarkedTexts) {n : Node}
    (hn : n ∈ g.nodes) : Unmarked n.displayName := by
  have hmem := firstGiven_mem (n.data.label.getD "") [n.type, n.id]
  rw [← Node.displayName] at hmem
  simp only [List.mem_cons, List.not_mem_nil, or_false] at hmem
  rcases hmem with heq | heq | heq
  · rw [heq]
    cases hlabel : n.data.label with
    | none => exact unmarked_empty
    | some label => exact h.label n hn label hlabel
  · rw [heq]
    exact h.type n hn
  · rw [heq]
    exact h.id n hn

/-! ### Around a body -/

namespace Fragment

theorem quiet_marker {g : Graph} (h : g.UnmarkedTexts) {n : Node} (hn : n ∈ g.nodes) {a b : String}
    (ha : Text.Fenced signals a.toList) (hb : Text.Fenced signals b.toList) :
    Quiet (a ++ marker n ++ b) := by
  have htype := (h.type n hn).quiet
  have hname := (h.displayName hn).singleLine.quiet
  have hid := (h.id n hn).quiet
  have hopen : Text.Fenced signals " (".toList := fenced_chars rfl rfl
  have hmiddle : Text.Fenced signals ") [".toList := fenced_chars rfl rfl
  have hclose : Text.Fenced signals "]".toList := fenced_chars rfl rfl
  have hfenced := (((ha.between htype hopen).between hname hmiddle).between hid hclose).append hb
  rw [Quiet, marker]
  simpa only [String.append_assoc] using hfenced.avoids

/-- What a log event says of its node. -/
def nodeFields (n : Node) : String :=
  Json.quote n.id ++ ", nodeName: " ++ Json.quote n.displayName ++ ", nodeType: " ++ Json.quote n.type

/-- What a log event ends with. -/
def logEnd (extra : String) : String :=
  ", timestamp: Date.now(), instanceId: event.instanceId" ++ extra ++ " \x7d" ++ "));"

theorem logEvent_eq (event : String) (n : Node) (extra : String) :
    logEvent event n extra = "console.log(JSON.stringify(" ++ "\x7b " ++ "type: " ++
      Json.quote event ++ ", nodeId: " ++ nodeFields n ++ logEnd extra := by
  unfold logEvent braced nodeFields logEnd
  simp only [String.append_assoc]

theorem quiet_nodeFields {g : Graph} (h : g.UnmarkedTexts) {n : Node} (hn : n ∈ g.nodes)
    {a b : String} (ha : Text.Fenced signals a.toList) (hb : Text.Fenced signals b.toList) :
    Quiet (a ++ nodeFields n ++ b) := by
  have hname : Text.Fenced signals ", nodeName: ".toList := fenced_chars rfl rfl
  have htype : Text.Fenced signals ", nodeType: ".toList := fenced_chars rfl rfl
  have hfenced := ((ha.between (quiet_quote (h.id n hn)) hname).between
    (quiet_quote (h.displayName hn)) htype).between (quiet_quote (h.type n hn)) hb
  rw [Quiet, nodeFields]
  simpa only [String.append_assoc] using hfenced.avoids

theorem quiet_logEvent {g : Graph} (h : g.UnmarkedTexts) {n : Node} (hn : n ∈ g.nodes)
    {event extra : String} (hevent : Quiet (Json.quote event))
    (hextra : Quiet extra) : Quiet (logEvent event n extra) := by
  rw [logEvent_eq]
  refine quiet_nodeFields h hn ?_ ?_
  · refine hevent.between (.append (.append ?_ ?_) ?_) ?_
    all_goals exact fenced_chars rfl rfl
  · refine (hextra.between ?_ ?_).append ?_
    all_goals exact fenced_chars rfl rfl

def setIn (code : String) : String := Text.indentBy Module.methodMargin (Text.indent code)

def fragmentHead (n : Node) : String :=
  Text.indentBy Module.methodMargin
    (Text.block ["// === NODE START: " ++ marker n ++ " ===", opens "try"]) ++
    "\n" ++ "      " ++ "console.log(JSON.stringify(" ++ "\x7b "

def eventEnd : String := logEnd "" ++ "\n"

def fragmentFoot (n : Node) : String :=
  "\n" ++ Text.indentBy Module.methodMargin (Text.block
    [Text.indent (logEvent "WF_NODE_END" n ", success: true"),
     reopens "catch (error)",
     "  const errorMessage = error instanceof Error ? error.message : String(error);",
     Text.indent (logEvent "WF_NODE_ERROR" n ", success: false, error: errorMessage"),
     "  throw error;",
     closes,
     "// === NODE END: " ++ marker n ++ " ==="])

theorem single_nodeFields (n : Node) : Single (nodeFields n) := by
  refine (((single_quote n.id).append ?_).append (single_quote n.displayName)).append ?_ |>.append
    (single_quote n.type)
  · exact single_chars rfl (by decide)
  · exact single_chars rfl (by decide)

theorem single_logEvent (event : String) (n : Node) {extra : String} (h : Single extra) :
    Single (logEvent event n extra) := by
  rw [logEvent_eq]
  unfold logEnd
  refine (((((Single.append ?_ ?_).append ?_).append (single_quote _)).append ?_).append
    (single_nodeFields n)).append (((Single.append ?_ h).append ?_).append ?_)
  all_goals exact single_chars rfl (by decide)

theorem full_logEvent (event : String) (n : Node) (extra : String) : Full (logEvent event n extra) := by
  rw [logEvent_eq]
  simp only [String.append_assoc]
  exact (full_chars rfl (by decide)).append _

theorem single_margin : Single "  " := single_chars rfl (by decide)

/-- What starts on a line that is not blank starts with the margin when it is set in. -/
theorem setIn_append {x : String} (h : Single x) (hfull : Full x) (y : String) :
    ∃ rest, setIn (x ++ y) = "      " ++ x ++ rest := by
  obtain ⟨rest, hrest⟩ := indentBy_append h hfull "  " y
  obtain ⟨rest', hrest'⟩ :=
    indentBy_append (single_margin.append h) (hfull.behind "  ") Module.methodMargin rest
  refine ⟨rest', ?_⟩
  rw [setIn, Text.indent, hrest, hrest', ← String.append_assoc]
  rfl

theorem setIn_single {s : String} (h : Single s) (hfull : Full s) : setIn s = "      " ++ s := by
  rw [setIn, Text.indent, indentBy_single h hfull,
    indentBy_single (single_margin.append h) (hfull.behind "  "), ← String.append_assoc]
  rfl

theorem setIn_logStart (n : Node) :
    setIn (logEvent "WF_NODE_START" n "") = "      " ++ logEvent "WF_NODE_START" n "" :=
  setIn_single (single_logEvent _ n (by simp [Single])) (full_logEvent _ n _)

theorem toList_nodeFields (n : Node) :
    eventHead ++ (nodeFields n).toList = eventChars n := by
  unfold nodeFields eventChars
  simp only [String.toList_append, toList_quote, List.append_assoc]

theorem eventHead_eq :
    ("type: " ++ Json.quote "WF_NODE_START" ++ ", nodeId: ").toList = eventHead := by
  rw [String.toList_append, String.toList_append, toList_quote]
  unfold eventHead
  rfl

/-- The code of a body stands between the start event and the end event, each on lines of its own. -/
theorem wrap_eq (n : Node) (code : String) :
    wrap n code =
      Text.block ["// === NODE START: " ++ marker n ++ " ===", opens "try"] ++ "\n" ++
        (Text.indent (logEvent "WF_NODE_START" n "") ++ "\n" ++ (Text.indent code ++ "\n" ++
          (Text.indent (logEvent "WF_NODE_END" n ", success: true") ++ "\n" ++ Text.block
            [reopens "catch (error)",
             "  const errorMessage = error instanceof Error ? error.message : String(error);",
             Text.indent (logEvent "WF_NODE_ERROR" n ", success: false, error: errorMessage"),
             "  throw error;",
             closes,
             "// === NODE END: " ++ marker n ++ " ==="]))) := by
  rw [← Text.block_cons_cons (Text.indent (logEvent "WF_NODE_END" n _)), ← Text.block_cons_cons,
    ← Text.block_cons_cons, ← Text.block_append (List.cons_ne_nil _ _) (List.cons_ne_nil _ _)]
  rfl

theorem indentBy_wrap (n : Node) (code : String) :
    (Text.indentBy Module.methodMargin (wrap n code)).toList =
      (fragmentHead n).toList ++ eventChars n ++ (eventEnd ++ setIn code ++ fragmentFoot n).toList := by
  have hsplit : Text.indentBy Module.methodMargin (wrap n code) =
      Text.indentBy Module.methodMargin
        (Text.block ["// === NODE START: " ++ marker n ++ " ===", opens "try"]) ++ "\n" ++
      (setIn (logEvent "WF_NODE_START" n "") ++ "\n" ++ setIn code ++ fragmentFoot n) := by
    unfold fragmentFoot setIn
    rw [wrap_eq, Text.block_cons_cons (Text.indent (logEvent "WF_NODE_END" n _))]
    simp only [Text.indentBy_append_feed]
    simp only [String.append_assoc]
  rw [hsplit, setIn_logStart, logEvent_eq]
  unfold fragmentHead eventEnd
  rw [← toList_nodeFields, ← eventHead_eq]
  simp only [String.toList_append, List.append_assoc]

theorem quiet_methodMargin {t : String} (h : Quiet t) :
    Quiet (Text.indentBy Module.methodMargin t) :=
  h.indentBy (by decide)

theorem quiet_indent {t : String} (h : Quiet t) : Quiet (Text.indent t) :=
  h.indentBy (by decide)

theorem quiet_fragmentHead {g : Graph} (h : g.UnmarkedTexts) {n : Node} (hn : n ∈ g.nodes) :
    Quiet (fragmentHead n) := by
  have hlines : ∀ l ∈ ["// === NODE START: " ++ marker n ++ " ===", opens "try"], Quiet l := by
    simp only [List.forall_mem_cons, List.not_mem_nil, false_imp_iff, implies_true, and_true]
    refine ⟨quiet_marker h hn ?_ ?_, quiet_opens (quiet_chars rfl rfl)⟩
    all_goals exact fenced_chars rfl rfl
  unfold fragmentHead
  refine ((((quiet_methodMargin (quiet_block hlines)).appendFenced fenced_feed).appendFenced
    ?_).appendFenced ?_).appendFenced ?_
  all_goals exact fenced_chars rfl rfl

theorem quiet_fragmentFoot {g : Graph} (h : g.UnmarkedTexts) {n : Node} (hn : n ∈ g.nodes) :
    Quiet (fragmentFoot n) := by
  unfold fragmentFoot
  refine (quiet_methodMargin (quiet_block ?_)).behindFenced fenced_feed
  simp only [List.forall_mem_cons, List.not_mem_nil, false_imp_iff, implies_true, and_true]
  refine ⟨quiet_indent (quiet_logEvent h hn (quiet_quote (unmarked_chars rfl rfl))
      (quiet_chars rfl rfl)), quiet_reopens (quiet_chars rfl rfl),
    quiet_chars rfl rfl, quiet_indent (quiet_logEvent h hn (quiet_quote (unmarked_chars rfl rfl))
      (quiet_chars rfl rfl)), quiet_chars rfl rfl,
    fenced_closes.avoids, quiet_marker h hn ?_ ?_⟩
  all_goals exact fenced_chars rfl rfl

end Fragment

end DurableFlow
