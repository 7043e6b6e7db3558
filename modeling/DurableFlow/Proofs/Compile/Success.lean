import DurableFlow.Compile
import DurableFlow.Proofs.Graph.Detection
import DurableFlow.Proofs.Outcome

/-!
What a successful compilation did. The graph was read from the input and its report has no errors,
so its ids are distinct and its edges are links; the nodes were put in order, a fragment was made
for each of them, and the source was put together from the fragments.
-/

namespace DurableFlow

def Graph.ofDocument? (v : Json) : Option Graph :=
  match Graph.read v with
  | .ok g => some g
  | _ => none

/-- The graph that an input stands for, if it can be read. -/
def GraphInput.graph? : GraphInput → Option Graph
  | .graph g => some g
  | .document v => Graph.ofDocument? v
  | .text s =>
    match Json.parse s with
    | .ok v => Graph.ofDocument? v
    | .error _ => none

/-! ### Reports without errors -/

namespace Report

theorem nodup_of_repeated {seen xs : List String} (h : repeated seen [] xs = []) :
    xs.Nodup ∧ ∀ x ∈ xs, x ∉ seen := by
  induction xs generalizing seen with
  | nil => simp
  | cons x xs ih =>
      rw [repeated] at h
      by_cases hx : x ∈ seen
      · simp [hx] at h
      · simp only [hx, decide_false, Bool.false_and, Bool.false_eq_true, if_false] at h
        obtain ⟨hnodup, hnew⟩ := ih h
        refine ⟨List.nodup_cons.mpr ⟨fun hmem => hnew x hmem List.mem_cons_self, hnodup⟩, ?_⟩
        intro y hy
        rcases List.mem_cons.mp hy with rfl | hy
        · exact hx
        · exact fun hseen => hnew y hy (List.mem_cons_of_mem x hseen)

theorem nodup_of_idErrors {g : Graph} (h : idErrors g = []) : g.ids.Nodup :=
  (nodup_of_repeated (List.map_eq_nil_iff.mp h)).1

theorem declares_of_edgeErrors {g : Graph} {seen : List String} {es : List Edge}
    (h : edgeErrorsFrom g seen es = []) : ∀ e ∈ es, g.declares e = true := by
  induction es generalizing seen with
  | nil => simp
  | cons e es ih =>
      rw [edgeErrorsFrom, List.append_eq_nil_iff] at h
      intro e' he'
      rcases List.mem_cons.mp he' with rfl | he'
      · have hends := h.1
        rw [edgeErrors] at hends
        simp only [List.append_eq_nil_iff] at hends
        rw [Graph.declares_iff]
        refine ⟨?_, ?_⟩
        · by_contra hsource
          simp [hsource] at hends
        · by_contra htarget
          simp [htarget] at hends
      · exact ih h.2 e' he'

end Report

/-- A graph whose ids are distinct and whose edges lead from node to node. -/
structure Graph.WellLinked (g : Graph) : Prop where
  nodup : g.ids.Nodup
  declares : ∀ e ∈ g.edges, g.declares e = true

namespace Report

theorem errors_eq_nil {c : Option Catalog} {asked : Option String} {g : Graph} {r : Report}
    (h : ofGraph c asked g = .ok r) (hvalid : r.isValid = true) :
    idErrors g = [] ∧ typeErrors g = [] ∧ edgeErrorsFrom g [] g.edges = [] ∧
      (findEntry g asked).errors = [] := by
  cases c
  all_goals
    dsimp only [ofGraph] at h
    obtain ⟨found, -, h⟩ := bind_eq_ok h
    obtain rfl := Except.ok.inj h
    simp only [isValid, List.isEmpty_iff, List.append_eq_nil_iff] at hvalid
    exact ⟨hvalid.1.1.1.1, hvalid.1.1.1.2, hvalid.1.1.2, hvalid.2⟩

theorem ofGraph_eq_ok {c : Option Catalog} {asked : Option String} {g : Graph} {r : Report}
    (h : ofGraph c asked g = .ok r) :
    r.graph = some g ∧ r.hasCycle = g.hasCycle ∧ (r.isValid = true → g.WellLinked) := by
  have hlinked : r.isValid = true → g.WellLinked := fun hvalid => by
    obtain ⟨hids, -, hedges, -⟩ := errors_eq_nil h hvalid
    exact ⟨nodup_of_idErrors hids, declares_of_edgeErrors hedges⟩
  cases c
  all_goals
    dsimp only [ofGraph] at h
    obtain ⟨found, -, h⟩ := bind_eq_ok h
    obtain rfl := Except.ok.inj h
    exact ⟨rfl, rfl, hlinked⟩

theorem nodes_ne_nil {c : Option Catalog} {asked : Option String} {g : Graph} {r : Report}
    (h : ofGraph c asked g = .ok r) (hvalid : r.isValid = true) : g.nodes ≠ [] := by
  intro hnil
  have hnone : ∀ id, g.node? id = none := fun id => by rw [Graph.node?, hnil, List.find?_nil]
  have hentry : (findEntry g asked).errors ≠ [] := by
    rw [findEntry, hnil]
    split
    · simp
    · simp [hnone]
  exact hentry (errors_eq_nil h hvalid).2.2.2

theorem ofDocument_eq_ok {c : Option Catalog} {asked : Option String} {v : Json} {r : Report}
    {g : Graph} (h : ofDocument c asked v = .ok r) (hg : r.graph = some g) :
    Graph.ofDocument? v = some g ∧ ofGraph c asked g = .ok r := by
  cases v with
  | obj ms =>
      rw [ofDocument] at h
      split at h
      · split at h
        · rename_i g' hread
          have hgraph := (ofGraph_eq_ok h).1
          rw [hg, Option.some.injEq] at hgraph
          subst hgraph
          exact ⟨by rw [Graph.ofDocument?, hread], h⟩
        · obtain rfl := Except.ok.inj h
          contradiction
        · contradiction
      · obtain rfl := Except.ok.inj h
        contradiction
  | _ => contradiction

end Report

namespace Compile

theorem report_eq_ok {c : Option Catalog} {asked : Option String} {input : GraphInput} {r : Report}
    {g : Graph} (h : report c asked input = .ok r) (hg : r.graph = some g) :
    input.graph? = some g ∧ Report.ofGraph c asked g = .ok r := by
  cases input with
  | graph g' =>
      have h := mapError_eq_ok h
      have hgraph := (Report.ofGraph_eq_ok h).1
      rw [hg, Option.some.injEq] at hgraph
      subst hgraph
      exact ⟨rfl, h⟩
  | document v => exact Report.ofDocument_eq_ok (mapError_eq_ok h) hg
  | text s =>
      rw [report] at h
      split at h
      · rename_i v hparse
        obtain ⟨hdocument, hreport⟩ := Report.ofDocument_eq_ok (mapError_eq_ok h) hg
        exact ⟨by simp only [GraphInput.graph?, hparse, hdocument], hreport⟩
      · contradiction

theorem decide_eq_ok {c : Catalog} {s : CompilerSettings} {o : CompileOptions} {r : Report}
    {a : Artifact} (h : (decide c s o r).result = .ok a) :
    ∃ g, r.graph = some g ∧ r.isValid = true ∧ (compileGraph c s o r g).result = .ok a := by
  rw [decide] at h
  split at h
  · rename_i g hgraph hvalid
    split at h
    · obtain ⟨_, -, h⟩ := Outcome.result_bind_eq_ok h
      contradiction
    · exact ⟨g, hgraph, hvalid, h⟩
  · obtain ⟨_, -, h⟩ := Outcome.result_bind_eq_ok h
    contradiction

end Compile

theorem compile_go_eq_ok {c : Catalog} {s : CompilerSettings} {o : CompileOptions}
    {input : GraphInput} {a : Artifact} (h : (compile.go c s o input).result = .ok a) :
    ∃ g r, input.graph? = some g ∧ Report.ofGraph (some c) o.entryNodeId g = .ok r ∧
      r.isValid = true ∧ (Compile.compileGraph c s o r g).result = .ok a := by
  rw [compile.go] at h
  obtain ⟨_, -, h⟩ := Outcome.result_bind_eq_ok h
  obtain ⟨r, hreport, h⟩ := Outcome.result_bind_eq_ok h
  obtain ⟨g, hgraph, hvalid, h⟩ := Compile.decide_eq_ok h
  obtain ⟨hinput, hreport⟩ := Compile.report_eq_ok hreport hgraph
  exact ⟨g, r, hinput, hreport, hvalid, h⟩

/-- A compilation that gives an artifact read a graph, found no errors in it and compiled it. -/
theorem compile_eq_ok {c : Catalog} {s : CompilerSettings} {o : CompileOptions}
    {input : GraphInput} {a : Artifact} (h : (compile c s o input).result = .ok a) :
    ∃ g r, input.graph? = some g ∧ Report.ofGraph (some c) o.entryNodeId g = .ok r ∧
      r.isValid = true ∧ (Compile.compileGraph c s o r g).result = .ok a := by
  cases input with
  | graph g => exact compile_go_eq_ok h
  | document v => exact compile_go_eq_ok h
  | text t =>
      rw [compile] at h
      split at h
      · contradiction
      · rename_i v hparse
        obtain ⟨g, r, hinput, hrest⟩ := compile_go_eq_ok h
        have hdocument : Graph.ofDocument? v = some g := hinput
        exact ⟨g, r, by simp only [GraphInput.graph?, hparse, hdocument], hrest⟩

namespace Compile

/-- The fragments of the nodes with these ids, one for each, in order. -/
def Made (ctx : Context) : (ids fragments : List String) → Prop :=
  List.Forall₂ fun id f =>
    ∃ n, ctx.graph.node? id = some n ∧ (Fragment.ofNode n ctx).result = .ok f

theorem fragment_eq_ok {ctx : Context} {n : Node} {f : String}
    (h : (fragment ctx n).result = .ok f) : (Fragment.ofNode n ctx).result = .ok f :=
  mapError_eq_ok h

theorem fragments_eq_ok {ctx : Context} {ids made : List String}
    (hids : ∀ id ∈ ids, id ∈ ctx.graph.ids) (h : (fragments ctx ids).result = .ok made) :
    Made ctx ids made := by
  induction ids generalizing made with
  | nil =>
      obtain rfl := Except.ok.inj h
      exact List.Forall₂.nil
  | cons id ids ih =>
      rw [fragments] at h
      split at h
      · rename_i hnone
        obtain ⟨n, hn, heq⟩ := List.mem_map.mp (hids id List.mem_cons_self)
        have hmiss := List.find?_eq_none.mp hnone n hn
        simp [heq] at hmiss
      · rename_i n hn
        obtain ⟨here, hhere, h⟩ := Outcome.result_bind_eq_ok h
        obtain ⟨rest, hrest, h⟩ := Outcome.result_bind_eq_ok h
        obtain rfl := Except.ok.inj h
        exact List.Forall₂.cons ⟨n, hn, fragment_eq_ok hhere⟩
          (ih (fun x hx => hids x (List.mem_cons_of_mem id hx)) hrest)

def entrypoint (o : CompileOptions) (g : Graph) : String :=
  firstGiven [o.className.getD "", Module.className (workflowName o g)]

def outputStep (ctx : Context) : Json :=
  match ctx.graph.toolInput? with
  | some _ => NodeData.ofOption ((outputNode? ctx.graph).bind fun n => ctx.stepNames.lookup n.id)
  | none => .null

theorem assemble_eq_ok {ctx : Context} {o : CompileOptions} {warnings ids made : List String}
    {collected : List Binding} {a : Artifact}
    (h : assemble ctx o warnings ids made collected = .ok a) :
    a.order = ids ∧ a.stepNames = ctx.stepNames ∧ a.className = entrypoint o ctx.graph ∧
      Module.source made (entrypoint o ctx.graph) (workflowName o ctx.graph) ctx.graph.toolInput?
        (outputStep ctx) = .ok a.moduleSource := by
  rw [assemble] at h
  rw [outputStep, entrypoint]
  split at h
  all_goals
    rename_i htool
    rw [htool]
    obtain ⟨manifest, -, h⟩ := bind_eq_ok h
    obtain ⟨source, hsource, h⟩ := bind_eq_ok h
    rw [htool] at hsource
    obtain rfl := Except.ok.inj h
    exact ⟨rfl, rfl, rfl, hsource⟩

/-- What the compilation of a graph without errors is made of. -/
structure Compiled (c : Catalog) (s : CompilerSettings) (o : CompileOptions) (g : Graph)
    (a : Artifact) (fragments : List String) : Prop where
  order : (order g).result = .ok a.order
  stepNames : a.stepNames = Step.names g
  className : a.className = entrypoint o g
  made : Made (Context.ofGraph g c s) a.order fragments
  source : Module.source fragments a.className (workflowName o g) g.toolInput?
    (outputStep (Context.ofGraph g c s)) = .ok a.moduleSource

theorem order_perm {g : Graph} {ids : List String} (h : (order g).result = .ok ids) :
    ids.Perm (Graph.distinct g.ids) := by
  by_cases hcyclic : g.Cyclic
  · rw [Graph.compileOrder_of_cyclic hcyclic] at h
    obtain rfl := Except.ok.inj h
    exact List.Perm.refl _
  · have hacyclic := (Graph.not_cyclic_iff g).mp hcyclic
    rw [Graph.compileOrder_of_acyclic hacyclic] at h
    obtain rfl := Except.ok.inj h
    exact (Graph.order_eq_ok hacyclic).2

theorem mem_order_iff {g : Graph} {ids : List String} (h : (order g).result = .ok ids)
    {id : String} : id ∈ ids ↔ id ∈ g.ids := by
  rw [(order_perm h).mem_iff, Graph.mem_distinct]

theorem compileGraph_eq_ok {c : Catalog} {s : CompilerSettings} {o : CompileOptions} {r : Report}
    {g : Graph} {a : Artifact} (h : (compileGraph c s o r g).result = .ok a) :
    ∃ made, Compiled c s o g a made := by
  rw [compileGraph] at h
  obtain ⟨ids, hids, h⟩ := Outcome.result_bind_eq_ok h
  obtain ⟨made, hmade, h⟩ := Outcome.result_bind_eq_ok h
  obtain ⟨collected, -, h⟩ := Outcome.result_bind_eq_ok h
  obtain ⟨artifact, hartifact, h⟩ := Outcome.result_bind_eq_ok h
  obtain ⟨_, -, h⟩ := Outcome.result_bind_eq_ok h
  obtain rfl := Except.ok.inj h
  obtain ⟨horder, hnames, hclass, hsource⟩ := assemble_eq_ok (mapError_eq_ok hartifact)
  subst horder
  refine ⟨made, hids, hnames, hclass, fragments_eq_ok (fun _ => (mem_order_iff hids).mp) hmade, ?_⟩
  rw [hclass]
  exact hsource

end Compile

/-- A compilation that gives an artifact, seen from the graph that its input stands for. -/
theorem compiled_of_compile {c : Catalog} {s : CompilerSettings} {o : CompileOptions}
    {input : GraphInput} {a : Artifact} {g : Graph} (h : (compile c s o input).result = .ok a)
    (hg : input.graph? = some g) :
    g.WellLinked ∧ (∃ made, Compile.Compiled c s o g a made) ∧
      ∃ r, Report.ofGraph (some c) o.entryNodeId g = .ok r ∧ r.isValid = true := by
  obtain ⟨g', r, hinput, hreport, hvalid, hcompiled⟩ := compile_eq_ok h
  rw [hg, Option.some.injEq] at hinput
  subst hinput
  exact ⟨(Report.ofGraph_eq_ok hreport).2.2 hvalid, Compile.compileGraph_eq_ok hcompiled,
    r, hreport, hvalid⟩

end DurableFlow
