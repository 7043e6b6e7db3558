import DurableFlow.Compile
import DurableFlow.Proofs.Fragment.Alike
import DurableFlow.Proofs.Graph.Moved

/-!
Where a configuration is written does not matter. Graphs that cannot be told apart get the same report
and are compiled to the same artifact, with the same notices, or refused for the same reason; and moving
entries of configurations between their two places gives such graphs.
-/

namespace DurableFlow

/-! ### Reports -/

/-- The reports say the same, of graphs that cannot be told apart. -/
structure Report.Alike (r r' : Report) : Prop where
  errors : r'.errors = r.errors
  warnings : r'.warnings = r.warnings
  hasCycle : r'.hasCycle = r.hasCycle
  entry : r'.entry = r.entry
  graph : Option.Rel Graph.Alike r.graph r'.graph

namespace Report

theorem nodeFindings_alike {n n' : Node} (h : n.Alike n') :
    nodeFindings Schema.validate Catalog.builtin n' = nodeFindings Schema.validate Catalog.builtin n := by
  rw [nodeFindings, nodeFindings, h.type, h.id]
  split
  · rfl
  · split
    · rfl
    · rename_i d hd
      have hconfig := Document.configProblems_alike (Catalog.mem_of_get? hd).1 h.config
      rw [Document.configProblems] at hconfig
      rw [hconfig]

theorem catalogFindings_alike {ns ns' : List Node} (h : List.Forall₂ Node.Alike ns ns') :
    catalogFindings Schema.validate Catalog.builtin ns' =
      catalogFindings Schema.validate Catalog.builtin ns := by
  induction h with
  | nil => rfl
  | cons hn _ ih => rw [catalogFindings, nodeFindings_alike hn, ih, catalogFindings]

theorem ofGraph_alike (asked : Option String) {g g' : Graph} (h : g.Alike g') :
    Agree Report.Alike (ofGraph (some Catalog.builtin) asked g)
      (ofGraph (some Catalog.builtin) asked g') := by
  rw [ofGraph, ofGraphBy, ofGraphBy, catalogFindings_alike h.nodes]
  refine (Agree.refl _).bind ?_
  rintro found _ rfl
  refine ⟨?_, ?_, h.hasCycle, ?_, .some h⟩
  · simp only [idErrors_alike h, typeErrors_alike h, edgeErrorsFrom_alike h, h.edges,
      findEntry_alike h]
  · simp only [allEdgeWarnings_alike h, h.hasCycle, findEntry_alike h, any_isReturn_alike h]
  · simp only [findEntry_alike h]

theorem alike_ofStructure (problems : List String) :
    (ofStructure problems).Alike (ofStructure problems) :=
  ⟨rfl, rfl, rfl, rfl, .none⟩

theorem ofDocument_moved (asked : Option String) {ms ms' : Members} (h : Document.Moved ms ms') :
    Agree Report.Alike (ofDocument (some Catalog.builtin) asked (.obj ms))
      (ofDocument (some Catalog.builtin) asked (.obj ms')) := by
  rw [ofDocument, ofDocument, Document.problems_moved h]
  split
  · have hread := Graph.read_related h
    generalize Graph.read (.obj ms) = read at hread ⊢
    generalize Graph.read (.obj ms') = read' at hread ⊢
    cases hread with
    | ok hgraph => exact ofGraph_alike asked hgraph
    | issues found => exact alike_ofStructure _
    | stopped => exact rfl
  · exact alike_ofStructure _

end Report

/-! ### Resources -/

namespace Binding

/-- The uses are of the same resource by nodes that count as the same. -/
structure Use.Alike (u u' : Use) : Prop where
  usage : u'.usage = u.usage
  requirement : u'.requirement = u.requirement
  name : u'.name = u.name

theorem add_alike {u u' : Use} (h : u.Alike u') (bs : List Binding) : add u' bs = add u bs := by
  induction bs with
  | nil => simp only [add, Use.binding, h.usage, h.requirement, h.name]
  | cons b bs ih => simp only [add, h.usage, h.requirement, h.name, ih]

variable (c : Catalog) (s : CompilerSettings)

theorem usesOf_alike {n n' : Node} (h : n.Alike n') (rs : List Requirement) :
    Agree (List.Forall₂ Use.Alike) (usesOf c s n rs) (usesOf c s n' rs) := by
  induction rs with
  | nil => exact .nil
  | cons r rs ih =>
      rw [usesOf, usesOf, h.requirementName]
      refine (Agree.refl _).bind ?_
      rintro name _ rfl
      refine ih.bind fun us us' hus => ?_
      cases name with
      | none => exact hus
      | some name => exact .cons ⟨by rw [Use.usage, h.id, h.type, Use.usage], rfl, rfl⟩ hus

theorem uses_alike {ns ns' : List Node} (h : List.Forall₂ Node.Alike ns ns') :
    Agree (List.Forall₂ Use.Alike) (uses c s ns) (uses c s ns') := by
  induction h with
  | nil => exact .nil
  | @cons n n' ns ns' hn _ ih =>
      rw [uses, uses, hn.type]
      have hadd : ∀ us us', List.Forall₂ Use.Alike us us' → Agree (List.Forall₂ Use.Alike)
          (do let rest ← uses c s ns; return us ++ rest)
          (do let rest ← uses c s ns'; return us' ++ rest) :=
        fun us us' hus => ih.bind fun vs vs' hvs => List.rel_append hus hvs
      cases c.get? n.type with
      | none => exact hadd [] [] .nil
      | some d => exact (usesOf_alike c s hn d.bindings).bind hadd

theorem collect_alike {g g' : Graph} (h : g.Alike g') : collect c s g' = collect c s g := by
  refine Agree.eq ((uses_alike c s h.nodes).bind fun us us' hus => ?_)
  have hfold : ∀ bs, us'.foldl (fun bs u => add u bs) bs = us.foldl (fun bs u => add u bs) bs := by
    induction hus with
    | nil => exact fun _ => rfl
    | cons hu _ ih => exact fun bs => by rw [List.foldl_cons, List.foldl_cons, add_alike hu, ih]
  exact hfold []

end Binding

/-! ### Tools and modules -/

namespace Tool

variable {n n' : Node}

theorem parameters_alike (h : n.Alike n') : parameters n' = parameters n := by
  rw [parameters, h.setting, parameters]

theorem name_alike (h : n.Alike n') (workflow : String) : name n' workflow = name n workflow := by
  simp only [name, h.setting]

theorem description_alike (h : n.Alike n') (workflow : String) :
    description n' workflow = description n workflow := by
  rw [description, h.setting, description]

theorem manifest_alike (h : n.Alike n') (workflow : String) :
    manifest n' workflow = manifest n workflow := by
  simp only [manifest, parameters_alike h, name_alike h, description_alike h]

theorem shape_alike (h : n.Alike n') : shape n' = shape n := by
  rw [shape, parameters_alike h, shape]

theorem bindings_alike (h : n.Alike n') (className : String) :
    bindings className n' = bindings className n := by
  simp only [bindings, h.id, h.type]

end Tool

theorem Module.toolServer_alike {n n' : Node} (h : n.Alike n') (className workflow : String)
    (outputStep : Json) :
    toolServer className n' workflow outputStep = toolServer className n workflow outputStep := by
  rw [toolServer, Tool.manifest_alike h, Tool.name_alike h, Tool.shape_alike h,
    Tool.description_alike h, toolServer]

theorem Module.source_alike {tool tool' : Option Node} (h : Option.Rel Node.Alike tool tool')
    (fragments : List String) (className workflow : String) (outputStep : Json) :
    source fragments className workflow tool' outputStep =
      source fragments className workflow tool outputStep := by
  cases h with
  | none => rfl
  | some h => rw [source, source, toolServer_alike h]

/-! ### Compilation -/

namespace Compile

variable {ctx ctx' : Context} {g g' : Graph}

theorem fragment_alike (hc : ctx.Alike ctx') {n n' : Node} (h : n.Alike n') :
    fragment ctx' n' = fragment ctx n := by
  rw [fragment, Fragment.ofNode_alike h hc, h.id, h.type, fragment]

theorem fragments_alike (hc : ctx.Alike ctx') (ids : List String) :
    fragments ctx' ids = fragments ctx ids := by
  induction ids with
  | nil => rfl
  | cons id ids ih =>
      rw [fragments, fragments]
      rcases rel_cases (hc.graph.node? id) with ⟨hn, hn'⟩ | ⟨n, n', hn, hn', halike⟩
      · rw [hn, hn']
        exact ih
      · simp only [hn, hn', fragment_alike hc halike, ih]

theorem toolInput?_alike (h : g.Alike g') : Option.Rel Node.Alike g.toolInput? g'.toolInput? :=
  find?_rel h.nodes fun _ _ hn => by rw [hn.type]

theorem outputNode?_alike (h : g.Alike g') : Option.Rel Node.Alike (outputNode? g) (outputNode? g') := by
  have hreturn : Option.Rel Node.Alike (g.nodes.find? Node.isReturn) (g'.nodes.find? Node.isReturn) :=
    find?_rel h.nodes fun _ _ hn => hn.isReturn
  have houtput : Option.Rel Node.Alike (g.nodes.find? fun n => n.type == toolOutputType)
      (g'.nodes.find? fun n => n.type == toolOutputType) :=
    find?_rel h.nodes fun _ _ hn => by rw [hn.type]
  rw [outputNode?, outputNode?]
  rcases rel_cases houtput with ⟨hn, hn'⟩ | ⟨n, n', hn, hn', halike⟩
  · rw [hn, hn']
    exact hreturn
  · rw [hn, hn']
    exact .some halike

theorem order_alike (h : g.Alike g') : order g' = order g := by
  rw [order, h.order, h.ids, order]

theorem assemble_alike (hc : ctx.Alike ctx') (o : CompileOptions)
    (warnings order fragments : List String) (collected : List Binding) :
    assemble ctx' o warnings order fragments collected =
      assemble ctx o warnings order fragments collected := by
  have hworkflow : workflowName o ctx'.graph = workflowName o ctx.graph := by
    rw [workflowName, hc.graph.name, hc.graph.id, workflowName]
  have houtput : ((outputNode? ctx'.graph).bind fun n => ctx.stepNames.lookup n.id) =
      (outputNode? ctx.graph).bind fun n => ctx.stepNames.lookup n.id := by
    rcases rel_cases (outputNode?_alike hc.graph) with ⟨hn, hn'⟩ | ⟨n, n', hn, hn', halike⟩
    · rw [hn, hn']
    · rw [hn, hn', Option.bind_some, Option.bind_some, halike.id]
  rcases rel_cases (toolInput?_alike hc.graph) with ⟨hn, hn'⟩ | ⟨n, n', hn, hn', halike⟩
  · simp only [assemble, hworkflow, hn, hn', hc.stepNames, hc.settings]
  · simp only [assemble, hworkflow, houtput, hn, hn', hc.stepNames, hc.settings, Option.isSome_some,
      Tool.manifest_alike halike, Tool.bindings_alike halike, Module.source_alike (.some halike)]

theorem compileGraph_alike (c : Catalog) (s : CompilerSettings) (o : CompileOptions)
    {r r' : Report} (hr : r.Alike r') (h : g.Alike g') :
    compileGraph c s o r' g' = compileGraph c s o r g := by
  have hc := Context.Alike.ofGraph h c s
  simp only [compileGraph, order_alike h, fragments_alike hc, Binding.collect_alike c s h,
    hr.warnings, hr.hasCycle, assemble_alike hc]

theorem decide_alike (c : Catalog) (s : CompilerSettings) (o : CompileOptions) {r r' : Report}
    (h : r.Alike r') : decide c s o r' = decide c s o r := by
  have hvalid : r'.isValid = r.isValid := by rw [Report.isValid, h.errors, Report.isValid]
  rw [decide, decide, hvalid, h.errors, h.warnings, h.hasCycle]
  rcases rel_cases h.graph with ⟨hg, hg'⟩ | ⟨g, g', hg, hg', halike⟩
  · rw [hg, hg']
  · rw [hg, hg']
    cases r.isValid with
    | false => rfl
    | true => simp only [compileGraph_alike c s o h halike]

theorem compile_document {c : Catalog} {s : CompilerSettings} {o : CompileOptions} {v : Json}
    {r : Report} (h : report (some c) o.entryNodeId (.document v) = .ok r) :
    compile c s o (.document v) =
      Outcome.inform "Starting compilation" >>= fun _ => decide c s o r := by
  show compile.go c s o (.document v) = _
  rw [compile.go, h]
  rfl

end Compile

open Compile in
/-- Wherever the entries of its configurations stand, a document gets a report with the same errors, the
same warnings, the same word on cycles and the same entry, and it is compiled to the same artifact, or
refused for the same reason, with the same notices. -/
theorem report_and_compile_moved (s : CompilerSettings) (o : CompileOptions) (asked : Option String)
    {ms ms' : Members} (h : Document.Moved ms ms') :
    (∃ r r', report (some Catalog.builtin) asked (.document (.obj ms)) = .ok r ∧
      report (some Catalog.builtin) asked (.document (.obj ms')) = .ok r' ∧
      r'.errors = r.errors ∧ r'.warnings = r.warnings ∧ r'.hasCycle = r.hasCycle ∧
      r'.entry = r.entry) ∧
    compile Catalog.builtin s o (.document (.obj ms')) =
      compile Catalog.builtin s o (.document (.obj ms)) := by
  have hreport (asked : Option String) : ∃ r r',
      report (some Catalog.builtin) asked (.document (.obj ms)) = .ok r ∧
      report (some Catalog.builtin) asked (.document (.obj ms')) = .ok r' ∧ r.Alike r' := by
    obtain ⟨r, hr⟩ := Report.ofDocument_builtin asked ms
    obtain ⟨r', hr', halike⟩ := (Report.ofDocument_moved asked h).exists_ok hr
    exact ⟨r, r', by rw [report, hr]; rfl, by rw [report, hr']; rfl, halike⟩
  constructor
  · obtain ⟨r, r', hr, hr', halike⟩ := hreport asked
    exact ⟨r, r', hr, hr', halike.errors, halike.warnings, halike.hasCycle, halike.entry⟩
  · obtain ⟨r, r', hr, hr', halike⟩ := hreport o.entryNodeId
    rw [compile_document hr, compile_document hr', decide_alike _ s o halike]

def greetingInside : Members :=
  [("id", .str "b"), ("type", .str "kv-get"),
   ("data", .obj [("config", .obj [("key", .str "greeting"), ("namespace", .str "CACHE")])])]

def greetingBeside : Members :=
  [("id", .str "b"), ("type", .str "kv-get"),
   ("data", .obj [("config", .obj [("namespace", .str "CACHE")])]),
   ("config", .obj [("key", .str "greeting")])]

def behindEntry (node : Members) : Members :=
  [("nodes", .arr [.obj [("id", .str "a"), ("type", .str "entry")], .obj node])]

theorem moved_greeting : Document.Moved (behindEntry greetingInside) (behindEntry greetingBeside) := by
  have hparts : Node.Parts greetingInside
      [("config", .obj [("key", .str "greeting"), ("namespace", .str "CACHE")])] []
      [("key", .str "greeting"), ("namespace", .str "CACHE")] := ⟨rfl, rfl, rfl⟩
  have hnode : Node.Moved (.obj greetingInside) (.obj greetingBeside) :=
    Node.moved_lifted (fun key => key == "key") hparts (by decide)
  refine ⟨fun key hkey => ?_, .inr ⟨_, _, rfl, rfl, .cons (.kept _) (.cons hnode .nil)⟩⟩
  have hne : "nodes" ≠ key := fun heq => hkey (heq ▸ List.mem_singleton_self _)
  simp [behindEntry, Members.get?, hne]

/-- The graph is compiled, to the same artifact from both documents. -/
theorem report_and_compile_moved_greeting :
    (compile Catalog.builtin {} {} (.document (.obj (behindEntry greetingInside)))).result.isOk = true ∧
    compile Catalog.builtin {} {} (.document (.obj (behindEntry greetingBeside))) =
      compile Catalog.builtin {} {} (.document (.obj (behindEntry greetingInside))) :=
  ⟨by decide +kernel, (report_and_compile_moved {} {} none moved_greeting).2⟩

end DurableFlow
