import DurableFlow.Catalog.Builtin
import DurableFlow.Proofs.Module.Segment

/-!
Reading a compiled graph back. When no mark stands in the texts of the graph and no body starts an
event of its own, the events of a source are those of the nodes in the order in which they run, and
the reader recovers every node with its id, its type, its display name and the name of its step.
-/

namespace DurableFlow

open Skeleton Fragment

namespace Module

/-! ### A source as start events and the texts between them -/

/-- What stands between a fragment and the next start event, or the end of the source. -/
def upToNext (ending : String) : List (Node × String) → String
  | [] => ending
  | p :: _ => "\n\n" ++ fragmentHead p.1

/-- The nodes of some bodies, each with the text from its start event up to the next one. -/
def segments (ending : String) : List (Node × String) → List (Node × List Char)
  | [] => []
  | p :: rest =>
    (p.1, (eventEnd ++ setIn p.2 ++ (fragmentFoot p.1 ++ upToNext ending rest)).toList) ::
      segments ending rest

theorem map_fst_segments (ending : String) (parts : List (Node × String)) :
    (segments ending parts).map (·.1) = parts.map (·.1) := by
  induction parts with
  | nil => rfl
  | cons p rest ih => rw [segments, List.map_cons, List.map_cons, ih]

/-- The fragments of some bodies are the start events with their segments, behind the first head. -/
theorem toList_laidOut (ending : String) (p : Node × String) (rest : List (Node × String)) :
    (laidOut ((p :: rest).map fun p => wrap p.1 p.2) ++ ending).toList =
      (fragmentHead p.1).toList ++ written (segments ending (p :: rest)) := by
  induction rest generalizing p with
  | nil =>
      have hone : laidOut [wrap p.1 p.2] = Text.indentBy methodMargin (wrap p.1 p.2) :=
        String.intercalate_singleton
      rw [List.map_singleton, hone, String.toList_append, indentBy_wrap]
      simp only [written, segments, upToNext, List.flatMap_cons, List.flatMap_nil,
        String.toList_append, List.append_assoc, List.append_nil]
  | cons q rest ih =>
      -- The gap and the head of the next fragment belong to the segment before them.
      have htail := ih q
      rw [List.map_cons] at htail
      have hsplit : laidOut ((p :: q :: rest).map fun p => wrap p.1 p.2) =
          Text.indentBy methodMargin (wrap p.1 p.2) ++ "\n\n" ++
            laidOut (wrap q.1 q.2 :: rest.map fun p => wrap p.1 p.2) :=
        String.intercalate_cons_cons
      rw [hsplit, String.append_assoc, String.toList_append, htail, String.toList_append,
        indentBy_wrap]
      simp only [written, segments, upToNext, List.flatMap_cons, String.toList_append,
        List.append_assoc]

/-! ### What stands behind a body -/

/-- No signal stands behind a body up to the next event, and none can have started in the body. -/
theorem quiet_behind {g : Graph} (h : g.UnmarkedTexts) {ending : String} (hending : Quiet ending)
    (hfeed : Text.FencedBefore signals ending.toList) {n : Node} (hn : n ∈ g.nodes)
    {rest : List (Node × String)} (hrest : ∀ p ∈ rest, p.1 ∈ g.nodes) :
    Quiet (fragmentFoot n ++ upToNext ending rest) ∧
      Text.FencedBefore signals (fragmentFoot n ++ upToNext ending rest).toList := by
  constructor
  · cases rest with
    | nil => exact (quiet_fragmentFoot h hn).append hending (.inr hfeed)
    | cons p rest =>
        refine (quiet_fragmentFoot h hn).append ?_ (.inr ?_)
        · exact (quiet_fragmentHead h (hrest p List.mem_cons_self)).behindFenced fenced_gap
        · rw [upToNext, String.toList_append]
          exact fenced_gap.before.append _
  · rw [fragmentFoot, String.append_assoc, String.toList_append]
    exact fenced_feed.before.append _

theorem avoids_segment {code tail : String} (hcode : ¬Text.Occurs "WF_NODE_START" code)
    (htail : Quiet tail) (hfeed : Text.FencedBefore signals tail.toList) :
    Text.Avoids [eventSignal] (eventEnd ++ setIn code ++ tail).toList := by
  have hsub : [eventSignal] ⊆ signals := by simp [signals]
  have hsolid : ∀ w ∈ [eventSignal], w.all (fun c => !Text.isBlank c) = true := fun w hw =>
    solid_of_mem_signals w (hsub hw)
  have hname : "WF_NODE_START".toList <:+: eventSignal := ⟨['"'], ['"'], by simp [eventSignal]⟩
  -- The signal is the name of the event in quotes.
  have hquoted : Text.Avoids [eventSignal] code.toList := by
    intro w hw hin
    rw [List.mem_singleton.mp hw] at hin
    exact hcode (hname.trans hin)
  have hbody : Text.Avoids [eventSignal] (setIn code).toList :=
    (hquoted.indentBy hsolid (by decide)).indentBy hsolid (by decide)
  have hend : Text.FencedBehind [eventSignal] eventEnd.toList := by
    rw [eventEnd, String.toList_append]
    exact (fenced_feed.subset hsub).behind.append _
  rw [String.toList_append, String.toList_append]
  exact ((quiet_eventEnd.subset hsub).append hbody (.inl hend)).append (htail.subset hsub)
    (.inr fun w hw => hfeed w (hsub hw))

/-- Nodes of a graph with the texts of their bodies, which start no events. -/
def AreBodies (ctx : Context) (parts : List (Node × String)) : Prop :=
  ∀ p ∈ parts, p.1 ∈ ctx.graph.nodes ∧ ¬Text.Occurs "WF_NODE_START" p.2 ∧
    ∃ b, (body p.1 ctx).result = .ok b ∧ p.2 = b.render ctx p.1

/-- Every segment is without events, and the step of its node can be told from it. -/
theorem segments_spec {ctx : Context} {ending : String} (h : ctx.graph.UnmarkedTexts)
    (hlinked : ctx.graph.WellLinked) (hending : Quiet ending)
    (hfeed : Text.FencedBefore signals ending.toList)
    (hnames : ∀ n ∈ ctx.graph.nodes, Step.IsIdentifier (ctx.stepName n).toList)
    {parts : List (Node × String)} (hparts : AreBodies ctx parts) :
    ∀ p ∈ segments ending parts, Text.Avoids [eventSignal] p.2 ∧ Tells (ctx.stepName p.1) p.2 := by
  induction parts with
  | nil => simp [segments]
  | cons p rest ih =>
      obtain ⟨hn, hstart, b, hb, hcode⟩ := hparts p List.mem_cons_self
      have hrest : AreBodies ctx rest := fun q hq => hparts q (List.mem_cons_of_mem p hq)
      obtain ⟨htail, hbefore⟩ := quiet_behind h hending hfeed hn fun q hq => (hrest q hq).1
      have hevents := avoids_segment hstart htail hbefore
      have htells := tells_body h hlinked hn ((body_meets p.1 ctx).of_ok hb) (hnames p.1 hn) htail
      rw [← hcode] at htells
      rw [segments, List.forall_mem_cons]
      dsimp only
      exact ⟨⟨hevents, htells⟩, ih hrest⟩

end Module

namespace Compile

/-- The nodes of an artifact in order, each with the text of its body. -/
theorem exists_bodies {ctx : Context} {ids made : List String} (h : Made ctx ids made)
    (hbodies : ∀ n ∈ ctx.graph.nodes, ∀ b, (body n ctx).result = .ok b →
      ¬Text.Occurs "WF_NODE_START" (b.render ctx n)) :
    ∃ parts, (parts.map (·.1)).map (·.id) = ids ∧ made = parts.map (fun p => wrap p.1 p.2) ∧
      Module.AreBodies ctx parts := by
  induction h with
  | nil => exact ⟨[], rfl, rfl, by simp [Module.AreBodies]⟩
  | @cons id f ids made hfirst _ ih =>
      obtain ⟨n, hn, hf⟩ := hfirst
      obtain ⟨b, hb, rfl⟩ := ofNode_eq_ok hf
      obtain ⟨parts, rfl, rfl, hparts⟩ := ih
      have hmem := List.mem_of_find?_eq_some hn
      refine ⟨(n, b.render ctx n) :: parts, ?_, rfl, ?_⟩
      · rw [List.map_cons, List.map_cons, node?_id hn]
      · exact List.forall_mem_cons.mpr ⟨⟨hmem, hbodies n hmem b hb, b, hb, rfl⟩, hparts⟩

theorem occurs_stepName (ctx : Context) (n : Node) (b : Body) :
    Text.Occurs (ctx.stepName n) (b.render ctx n) := by
  have href : Text.Occurs (ctx.stepName n) (ctx.resultRef n) := (Text.Occurs.refl _).append_right _
  cases b with
  | durable lines =>
      have hline := ((href.append_left " = await step.do(").append_left
        (Json.quote (ctx.stepName n))).append_left ", async () =>"
      exact (hline.append_left " \x7b").block List.mem_cons_self
  | direct setup input output =>
      have hline := (href.append_left " = ").append_left (stateEntry n.id)
      exact (hline.append_left ".output;").block (by simp)

/-- The name of a step has no mark in it when there is no event in the body of its node. -/
theorem unmarked_stepName {ctx : Context} {n : Node} {b : Body}
    (hname : Step.IsIdentifier (ctx.stepName n).toList)
    (hb : ¬Text.Occurs "WF_NODE_START" (b.render ctx n)) : Unmarked (ctx.stepName n) := by
  have hothers : Text.Avoids (resultSignal :: callSignals) (ctx.stepName n).toList :=
    .of_forall rfl hname.1
  rw [unmarked_iff]
  intro w hw
  rcases List.mem_cons.mp hw with rfl | hw
  · intro hin
    have hevent : "WF_NODE_START".toList = eventName := by simp [eventName]
    rw [← hevent] at hin
    exact hb (hin.trans (occurs_stepName ctx n b))
  · exact hothers w hw

end Compile

namespace Skeleton

/-! ### What is recovered -/

def nodeJson (n : Node) (step : String) : Json :=
  .obj [("id", .str n.id), ("type", .str n.type),
    ("data", .obj [("label", .str n.displayName), ("config", .obj []), ("stepName", .str step)])]

def chainJson (n m : Node) : Json :=
  .obj [("id", .str ("e-" ++ n.id ++ "-" ++ m.id)), ("source", .str n.id), ("target", .str m.id)]

/-- The skeleton of some nodes: the nodes with the names of their steps, and the chain of them. -/
def skeleton (name : Json) (step : Node → String) (nodes : List Node) : Json :=
  .obj [("id", name), ("name", name), ("nodes", .arr (nodes.map fun n => nodeJson n (step n))),
    ("edges", .arr (List.zipWith chainJson nodes nodes.tail))]

theorem mapM_entry {step : Node → String} {found : List (Node × List Char)}
    (h : ∀ p ∈ found, Tells (step p.1) p.2) :
    (found.map fun p => (⟨eventOf p.1, p.2⟩ : Found)).mapM Found.entry =
      .ok ((found.map (·.1)).map fun n => entryOf n (step n)) := by
  induction found with
  | nil => rfl
  | cons p found ih =>
      rw [List.map_cons, List.mapM_cons, entry_of_tells (h p List.mem_cons_self),
        ih fun q hq => h q (List.mem_cons_of_mem p hq)]
      rfl

/-- A source of start events with their segments is recovered as the skeleton of its nodes. -/
theorem recover_written {source : String} {front : List Char} {step : Node → String}
    {found : List (Node × List Char)} (hsource : source.toList = front ++ written found)
    (hne : found ≠ []) (hfront : Text.Avoids [eventSignal] front)
    (hsegments : ∀ p ∈ found, Text.Avoids [eventSignal] p.2 ∧ Tells (step p.1) p.2) :
    ∃ name, recover source = .ok (skeleton name step (found.map (·.1))) := by
  have hscan : scan source.toList = found.map fun p => ⟨eventOf p.1, p.2⟩ := by
    rw [scan, hsource, scanFrom_written hfront fun p hp => (hsegments p hp).1]
  have hentries := mapM_entry fun p hp => (hsegments p hp).2
  have hnodes (nodes : List Node) : (nodes.map fun n => entryOf n (step n)).map Entry.toJson =
      nodes.map fun n => nodeJson n (step n) := by
    rw [List.map_map]
    rfl
  have hedges (nodes : List Node) : List.zipWith edge (nodes.map fun n => entryOf n (step n))
      (nodes.map fun n => entryOf n (step n)).tail = List.zipWith chainJson nodes nodes.tail := by
    rw [← List.map_tail, List.zipWith_map]
    rfl
  obtain ⟨p, rest, rfl⟩ := List.exists_cons_of_ne_nil hne
  rw [List.map_cons] at hscan hentries
  apply Exists.intro
  rw [skeleton, ← hnodes, ← hedges]
  simp only [recover, hscan, hentries]
  rfl

end Skeleton

/-- A source of quiet sections is recovered as the skeleton of the nodes of its bodies. -/
theorem Module.recover_source {ctx : Context} {parts : List (Node × String)}
    {className workflow text : String} {tool : Option Node} {outputStep : Json}
    (h : source (parts.map fun p => wrap p.1 p.2) className workflow tool outputStep = .ok text)
    (htexts : ctx.graph.UnmarkedTexts) (hlinked : ctx.graph.WellLinked)
    (hclass : Unmarked className) (hworkflow : Unmarked workflow)
    (htool : ∀ n ∈ tool, UnmarkedTool n) (hstep : UnmarkedValue outputStep)
    (hnames : ∀ n ∈ ctx.graph.nodes, Step.IsIdentifier (ctx.stepName n).toList)
    (hparts : AreBodies ctx parts) (hne : parts ≠ []) :
    ∃ name, recover text = .ok (skeleton name ctx.stepName (parts.map (·.1))) := by
  obtain ⟨sections, hsections, rfl⟩ := source_eq_ok h
  obtain ⟨p, rest, rfl⟩ := List.exists_cons_of_ne_nil hne
  have hending := quiet_closing hworkflow (quiet_sections htool hclass hworkflow hstep hsections)
  have hfront : Quiet (opening className workflow tool ++ fragmentHead p.1) :=
    (quiet_opening hclass hworkflow tool).append
      (quiet_fragmentHead htexts (hparts p List.mem_cons_self).1)
      (.inl (fencedBehind_opening className workflow tool))
  have hwritten : (opening className workflow tool ++
      laidOut ((p :: rest).map fun p => wrap p.1 p.2) ++ closing workflow sections).toList =
      (opening className workflow tool ++ fragmentHead p.1).toList ++
        written (segments (closing workflow sections) (p :: rest)) := by
    rw [String.append_assoc, String.toList_append, toList_laidOut, ← List.append_assoc,
      ← String.toList_append]
  rw [← map_fst_segments (closing workflow sections)]
  exact recover_written hwritten (List.cons_ne_nil _ _) (hfront.subset (by simp [signals]))
    (segments_spec htexts hlinked hending (fencedBefore_closing workflow sections) hnames hparts)

namespace Compile

theorem isIdentifier_stepName {g : Graph} (c : Catalog) (s : CompilerSettings) {n : Node}
    (hn : n ∈ g.nodes) : Step.IsIdentifier ((Context.ofGraph g c s).stepName n).toList := by
  obtain ⟨name, hlookup, hname⟩ := Step.lookup_names hn
  rw [Context.stepName, Context.ofGraph, hlookup]
  exact hname

theorem mem_of_outputNode? {g : Graph} {n : Node} (h : outputNode? g = some n) : n ∈ g.nodes := by
  rw [outputNode?] at h
  cases hfind : g.nodes.find? fun m => m.type == toolOutputType with
  | none =>
      rw [hfind] at h
      exact List.mem_of_find?_eq_some h
  | some m =>
      rw [hfind] at h
      obtain rfl := Option.some.inj h
      exact List.mem_of_find?_eq_some hfind

/-- No mark stands in the name of the step whose result a tool returns. -/
theorem unmarked_outputStep {g : Graph} {c : Catalog} {s : CompilerSettings}
    (h : ∀ n ∈ g.nodes, Unmarked ((Context.ofGraph g c s).stepName n)) :
    UnmarkedValue (outputStep (Context.ofGraph g c s)) := by
  have hnull : UnmarkedValue .null := unmarked_chars rfl rfl
  have hoption : ∀ name, (outputNode? g).bind (fun n => (Step.names g).lookup n.id) = name →
      UnmarkedValue (NodeData.ofOption name) := by
    rintro (_ | step) hstep
    · exact hnull
    · obtain ⟨n, hn, hlookup⟩ := Option.bind_eq_some_iff.mp hstep
      have hname := h n (mem_of_outputNode? hn)
      rw [Context.stepName, Context.ofGraph, hlookup] at hname
      exact hname
  rw [outputStep]
  split
  · exact hoption _ rfl
  · exact hnull

theorem perm_nodes {g : Graph} (hlinked : g.WellLinked) {ids : List String}
    (horder : (order g).result = .ok ids) {nodes : List Node} (hnodes : ∀ n ∈ nodes, n ∈ g.nodes)
    (hids : nodes.map (·.id) = ids) : nodes.Perm g.nodes := by
  have hperm : ids.Perm g.ids := by
    rw [← Graph.distinct_eq_self hlinked.nodup]
    exact order_perm horder
  have hnodup : (nodes.map (·.id)).Nodup := by
    rw [hids]
    exact hperm.nodup_iff.mpr hlinked.nodup
  -- Different nodes of the graph, and as many as the graph has.
  have hsub : nodes.Subperm g.nodes := (List.Nodup.of_map _ hnodup).subperm hnodes
  have hlength : nodes.length = g.nodes.length := by
    rw [← List.length_map (·.id), hids, hperm.length_eq, Graph.ids, List.length_map]
  exact hsub.perm_of_length_le hlength.ge

end Compile

/-- A compiled graph is read back from its source: when no mark stands in the texts of the graph, in
the name of the workflow or in the name of its class, and no body starts an event, the reader finds
all nodes in the order in which they run, with their ids, types, display names and step names, and
chains them in that order. -/
theorem recover_moduleSource {c : Catalog} {s : CompilerSettings} {o : CompileOptions}
    {input : GraphInput} {a : Artifact} {g : Graph} (h : (compile c s o input).result = .ok a)
    (hg : input.graph? = some g) (htexts : g.UnmarkedTexts)
    (hworkflow : Unmarked (Compile.workflowName o g)) (hclass : Unmarked a.className)
    (hbodies : ∀ n ∈ g.nodes, ∀ b, (body n (Context.ofGraph g c s)).result = .ok b →
      ¬Text.Occurs "WF_NODE_START" (b.render (Context.ofGraph g c s) n)) :
    ∃ name nodes, nodes.Perm g.nodes ∧ nodes.map (·.id) = a.order ∧
      (∀ n ∈ nodes, ∃ step, a.stepNames.lookup n.id = some step) ∧
      recover a.moduleSource =
        .ok (skeleton name (fun n => (a.stepNames.lookup n.id).getD "") nodes) := by
  obtain ⟨hlinked, ⟨made, hcompiled⟩, r, hreport, hvalid⟩ := compiled_of_compile h hg
  obtain ⟨parts, hids, rfl, hparts⟩ := Compile.exists_bodies hcompiled.made hbodies
  have hperm : (parts.map (·.1)).Perm g.nodes := by
    refine Compile.perm_nodes hlinked hcompiled.order (fun n hn => ?_) hids
    obtain ⟨p, hp, rfl⟩ := List.mem_map.mp hn
    exact (hparts p hp).1
  have hnames := fun n (hn : n ∈ g.nodes) => Compile.isIdentifier_stepName c s hn
  -- The name of a step stands in the body of its node, where there is no event.
  have hsteps : ∀ n ∈ g.nodes, Unmarked ((Context.ofGraph g c s).stepName n) := by
    intro n hn
    obtain ⟨p, hp, rfl⟩ := List.mem_map.mp (hperm.mem_iff.mpr hn)
    obtain ⟨-, -, b, hb, -⟩ := hparts p hp
    exact Compile.unmarked_stepName (hnames p.1 hn) (hbodies p.1 hn b hb)
  have hne : parts ≠ [] := by
    rintro rfl
    exact Report.nodes_ne_nil hreport hvalid (List.nil_perm.mp hperm)
  obtain ⟨name, hname⟩ := Module.recover_source hcompiled.source htexts hlinked hclass hworkflow
    (fun n hn => Module.UnmarkedTool.of_toolInput? htexts hn) (Compile.unmarked_outputStep hsteps)
    hnames hparts hne
  refine ⟨name, _, hperm, hids, fun n hn => ?_, ?_⟩
  · obtain ⟨step, hlookup, -⟩ := Step.lookup_names (hperm.mem_iff.mp hn)
    exact ⟨step, hcompiled.stepNames ▸ hlookup⟩
  · rw [hname, hcompiled.stepNames]
    rfl

def startThenSleep : Graph :=
  { nodes :=
      [{ id := "in", type := "entry", data := { label := some "Start \"é\"" } },
       { id := "nap", type := "sleep" }],
    edges := [{ source := "in", target := "nap" }] }

theorem unmarkedTexts_startThenSleep : startThenSleep.UnmarkedTexts := by
  have hnoTool : ∀ n ∈ startThenSleep.nodes, n.type ≠ toolInputType := by decide
  refine ⟨?_, ?_, ?_, ?_, fun n hn h => absurd h (hnoTool n hn),
    fun n hn h => absurd h (hnoTool n hn), fun n hn h => absurd h (hnoTool n hn),
    fun n hn h => absurd h (hnoTool n hn)⟩
  all_goals
    simp only [startThenSleep, List.forall_mem_cons, List.not_mem_nil, false_imp_iff, implies_true,
      and_true]
  · exact ⟨unmarked_chars rfl rfl, unmarked_chars rfl rfl⟩
  · exact ⟨unmarked_chars rfl rfl, unmarked_chars rfl rfl⟩
  · refine ⟨fun label hlabel => ?_, by simp⟩
    obtain rfl := Option.some.inj hlabel
    exact unmarked_chars rfl rfl
  · refine ⟨fun _ names hnames => ?_, by simp⟩
    obtain rfl := Except.ok.inj hnames
    exact fun _ hname => absurd hname List.not_mem_nil

/-- The lines of a body show whether it starts an event. -/
theorem not_occurs_of_lines {ctx : Context} {n : Node} (lines : List String)
    (h : (body n ctx).result.toOption.map (·.render ctx n) = some (Text.block lines))
    (hlines : ∀ l ∈ lines, Text.Avoids [eventName] l.toList) {b : Body}
    (hb : (body n ctx).result = .ok b) : ¬Text.Occurs "WF_NODE_START" (b.render ctx n) := by
  rw [hb] at h
  have hrender : b.render ctx n = Text.block lines := Option.some.inj h
  have hevent : "WF_NODE_START".toList = eventName := by simp [eventName]
  have hfeed : Text.Fenced [eventName] "\n".toList := .of_chars rfl (.of_isFenced rfl)
  rw [hrender, Text.Occurs, hevent]
  exact Text.Avoids.intercalate hfeed hlines eventName List.mem_cons_self

theorem recover_moduleSource_startThenSleep :
    ∃ a name nodes, (compile Catalog.builtin {} {} (.graph startThenSleep)).result = .ok a ∧
      nodes.Perm startThenSleep.nodes ∧ nodes.map (·.id) = a.order ∧ recover a.moduleSource =
        .ok (skeleton name (fun n => (a.stepNames.lookup n.id).getD "") nodes) := by
  have hok : (compile Catalog.builtin {} {} (.graph startThenSleep)).result.isOk = true := by
    with_unfolding_all decide
  have hclass : Compile.entrypoint {} startThenSleep = "Workflow" := by decide
  have hbodies : ∀ n ∈ startThenSleep.nodes, ∀ b,
      (body n (Context.ofGraph startThenSleep Catalog.builtin {})).result = .ok b →
      ¬Text.Occurs "WF_NODE_START" (b.render (Context.ofGraph startThenSleep Catalog.builtin {}) n) := by
    refine List.forall_mem_cons.mpr ⟨fun b => ?_, List.forall_mem_singleton.mpr fun b => ?_⟩
    · refine not_occurs_of_lines
        ["_workflowState[\"in\"] = \x7b input: event.payload, output: event.payload \x7d;",
         "_workflowResults.start = _workflowState[\"in\"].output;"] (by decide) ?_
      simp only [List.forall_mem_cons, List.not_mem_nil, false_imp_iff, implies_true, and_true]
      exact ⟨Text.avoids_of_spaced rfl rfl, Text.avoids_of_spaced rfl rfl⟩
    · refine not_occurs_of_lines
        ["const inputData = _workflowState[\"in\"]?.output || event.payload;",
         "await step.sleep(\"sleep\", 1000);",
         "_workflowState[\"nap\"] = \x7b input: inputData, output: \x7b sleptMs: 1000 \x7d \x7d;",
         "_workflowResults.sleep = _workflowState[\"nap\"].output;"] (by decide +kernel) ?_
      simp only [List.forall_mem_cons, List.not_mem_nil, false_imp_iff, implies_true, and_true]
      exact ⟨Text.avoids_of_spaced rfl rfl, Text.avoids_of_spaced rfl rfl,
        Text.avoids_of_spaced rfl rfl, Text.avoids_of_spaced rfl rfl⟩
  cases h : (compile Catalog.builtin {} {} (.graph startThenSleep)).result with
  | error e =>
      rw [h] at hok
      exact Bool.noConfusion hok
  | ok a =>
      obtain ⟨-, ⟨made, hcompiled⟩, -⟩ := compiled_of_compile h rfl
      have hunmarked : Unmarked a.className := by
        rw [hcompiled.className, hclass]
        exact unmarked_chars rfl rfl
      obtain ⟨name, nodes, hperm, hordered, -, hrecover⟩ := recover_moduleSource h rfl
        unmarkedTexts_startThenSleep (unmarked_chars rfl rfl) hunmarked hbodies
      exact ⟨a, name, nodes, rfl, hperm, hordered, hrecover⟩

end DurableFlow
