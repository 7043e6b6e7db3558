import DurableFlow.Catalog.Builtin
import DurableFlow.Proofs.Compile.Success

/-!
Which graphs are refused. The report on a graph decides alone: with errors the graph is refused as
invalid, and with a cycle under the strict policy it is refused as cyclic. What comes afterwards can
fail over a configuration but never refuses a graph, and a graph that is compiled in spite of a
cycle keeps the order of its declaration and says so.
-/

namespace DurableFlow

/-- The graph was turned down as a whole, before any code was made. -/
def CompileError.IsRefusal : CompileError → Prop
  | .invalid _ => True
  | .cycle _ => True
  | _ => False

namespace Report

theorem isValid_iff (r : Report) : r.isValid = true ↔ r.errors = [] := List.isEmpty_iff

theorem exists_graph_of_ofDocument {c : Option Catalog} {asked : Option String} {v : Json}
    {r : Report} (h : ofDocument c asked v = .ok r) (hvalid : r.errors = []) :
    ∃ g, r.graph = some g := by
  cases v with
  | obj ms =>
      rw [ofDocument] at h
      split at h
      · split at h
        · rename_i g _
          exact ⟨g, (ofGraph_eq_ok h).1⟩
        · obtain rfl := Except.ok.inj h
          simp [ofStructure] at hvalid
        · contradiction
      · rename_i hproblems
        obtain rfl := Except.ok.inj h
        exact absurd (List.map_eq_nil_iff.mp hvalid) hproblems
  | _ => contradiction

end Report

namespace Compile

theorem exists_graph_of_report {c : Option Catalog} {asked : Option String} {input : GraphInput}
    {r : Report} (h : report c asked input = .ok r) (hvalid : r.errors = []) :
    ∃ g, r.graph = some g := by
  cases input with
  | graph g => exact ⟨g, (Report.ofGraph_eq_ok (mapError_eq_ok h)).1⟩
  | document v => exact Report.exists_graph_of_ofDocument (mapError_eq_ok h) hvalid
  | text s =>
      rw [report] at h
      split at h
      · exact Report.exists_graph_of_ofDocument (mapError_eq_ok h) hvalid
      · contradiction

/-! ### What comes behind the decision -/

theorem order_isOk (g : Graph) : ∃ ids, (order g).result = .ok ids := by
  rw [order]
  split
  · exact ⟨_, rfl⟩
  · exact ⟨_, rfl⟩

theorem fragment_not_refusal {ctx : Context} {n : Node} {e : CompileError}
    (h : (fragment ctx n).result = .error e) : ¬e.IsRefusal := by
  obtain ⟨f, -, rfl⟩ := mapError_eq_error h
  split
  · exact id
  · exact id

theorem fragments_not_refusal {ctx : Context} {ids : List String} {e : CompileError}
    (h : (fragments ctx ids).result = .error e) : ¬e.IsRefusal := by
  induction ids with
  | nil => contradiction
  | cons id ids ih =>
      rw [fragments] at h
      split at h
      · exact ih h
      · rcases Outcome.result_bind_eq_error h with h | ⟨here, -, h⟩
        · exact fragment_not_refusal h
        · rcases Outcome.result_bind_eq_error h with h | ⟨rest, -, h⟩
          · exact ih h
          · contradiction

/-- Making code never refuses a graph. -/
theorem compileGraph_not_refusal {c : Catalog} {s : CompilerSettings} {o : CompileOptions}
    {r : Report} {g : Graph} {e : CompileError} (h : (compileGraph c s o r g).result = .error e) :
    ¬e.IsRefusal := by
  -- The steps in turn: the order never fails, and the others fail over a node or in a fault.
  rw [compileGraph] at h
  rcases Outcome.result_bind_eq_error h with h | ⟨ids, -, h⟩
  · obtain ⟨ids, hids⟩ := order_isOk g
    rw [hids] at h
    contradiction
  rcases Outcome.result_bind_eq_error h with h | ⟨made, -, h⟩
  · exact fragments_not_refusal h
  rcases Outcome.result_bind_eq_error h with h | ⟨collected, -, h⟩
  · obtain ⟨f, -, rfl⟩ := mapError_eq_error h
    exact id
  rcases Outcome.result_bind_eq_error h with h | ⟨artifact, -, h⟩
  · obtain ⟨f, -, rfl⟩ := mapError_eq_error h
    exact id
  · contradiction

theorem compileGraph_warnings {c : Catalog} {s : CompilerSettings} {o : CompileOptions} {r : Report}
    {g : Graph} {a : Artifact} (h : (compileGraph c s o r g).result = .ok a) :
    a.warnings = r.warnings ++ (if r.hasCycle then [cycleWarning] else []) := by
  rw [compileGraph] at h
  obtain ⟨ids, -, h⟩ := Outcome.result_bind_eq_ok h
  obtain ⟨made, -, h⟩ := Outcome.result_bind_eq_ok h
  obtain ⟨collected, -, h⟩ := Outcome.result_bind_eq_ok h
  obtain ⟨artifact, hartifact, h⟩ := Outcome.result_bind_eq_ok h
  obtain ⟨_, -, h⟩ := Outcome.result_bind_eq_ok h
  obtain rfl := Except.ok.inj h
  have hassembled := mapError_eq_ok hartifact
  rw [assemble] at hassembled
  split at hassembled
  all_goals
    obtain ⟨manifest, -, hassembled⟩ := bind_eq_ok hassembled
    obtain ⟨source, -, hassembled⟩ := bind_eq_ok hassembled
    obtain rfl := Except.ok.inj hassembled
    rfl

/-! ### The decision -/

/-- What is done about a graph with a cycle: the option, or else the setting. -/
def policy (s : CompilerSettings) (o : CompileOptions) : CyclePolicy :=
  o.cyclePolicy.getD s.cyclePolicy

theorem decide_of_errors {c : Catalog} {s : CompilerSettings} {o : CompileOptions} {r : Report}
    (h : r.errors ≠ []) : (decide c s o r).result = .error (.invalid ⟨r.errors, r.warnings⟩) := by
  rw [decide]
  split
  · rename_i hvalid
    exact absurd ((Report.isValid_iff r).mp hvalid) h
  · rfl

theorem decide_of_cycle {c : Catalog} {s : CompilerSettings} {o : CompileOptions} {r : Report}
    {g : Graph} (hg : r.graph = some g) (hvalid : r.errors = []) (hcycle : r.hasCycle = true)
    (hpolicy : policy s o = .error) :
    (decide c s o r).result = .error (.cycle (PhaseError.cycle).reason) := by
  have hstrict : o.cyclePolicy.getD s.cyclePolicy = .error := hpolicy
  rw [decide, hg, (Report.isValid_iff r).mpr hvalid]
  simp only [hcycle, hstrict, Bool.true_and, decide_true, if_true]
  rfl

theorem decide_of_allowed {c : Catalog} {s : CompilerSettings} {o : CompileOptions} {r : Report}
    {g : Graph} (hg : r.graph = some g) (hvalid : r.errors = [])
    (hallowed : ¬(r.hasCycle = true ∧ policy s o = .error)) :
    decide c s o r = compileGraph c s o r g := by
  have hroute : ¬(r.hasCycle && (o.cyclePolicy.getD s.cyclePolicy) = .error) = true := by
    simpa [policy] using hallowed
  rw [decide, hg, (Report.isValid_iff r).mpr hvalid]
  exact if_neg hroute

/-- A report on the input is all that the decision is made from. -/
theorem compile_result {c : Catalog} {s : CompilerSettings} {o : CompileOptions}
    {input : GraphInput} {r : Report} (h : report (some c) o.entryNodeId input = .ok r) :
    (compile c s o input).result = (decide c s o r).result := by
  have hgo : ∀ input, report (some c) o.entryNodeId input = .ok r →
      (compile.go c s o input).result = (decide c s o r).result := by
    intro input h
    rw [compile.go, Outcome.result_bind, Outcome.result_inform]
    show ((liftM (report (some c) o.entryNodeId input) : Outcome CompileError Report) >>=
      _).result = _
    rw [Outcome.result_bind, Outcome.result_lift, h]
    rfl
  cases input with
  | graph g => exact hgo (.graph g) h
  | document v => exact hgo (.document v) h
  | text t =>
      rw [report] at h
      rw [compile]
      split at h
      · rename_i v hparse
        rw [hparse]
        exact hgo (.document v) h
      · contradiction

theorem decide_eq_invalid_iff {c : Catalog} {s : CompilerSettings} {o : CompileOptions} {r : Report}
    (hgraph : r.errors = [] → ∃ g, r.graph = some g) (e : InvalidGraph) :
    (decide c s o r).result = .error (.invalid e) ↔ r.errors ≠ [] ∧ e = ⟨r.errors, r.warnings⟩ := by
  by_cases hvalid : r.errors = []
  · obtain ⟨g, hg⟩ := hgraph hvalid
    refine ⟨fun h => ?_, fun h => absurd hvalid h.1⟩
    by_cases hcycle : r.hasCycle = true ∧ policy s o = .error
    · rw [decide_of_cycle hg hvalid hcycle.1 hcycle.2] at h
      simp at h
    · rw [decide_of_allowed hg hvalid hcycle] at h
      exact absurd trivial (compileGraph_not_refusal h)
  · rw [decide_of_errors hvalid]
    simp [hvalid, eq_comm]

theorem decide_eq_cycle_iff {c : Catalog} {s : CompilerSettings} {o : CompileOptions} {r : Report}
    {g : Graph} (hg : r.graph = some g) (hvalid : r.errors = []) (reason : String) :
    (decide c s o r).result = .error (.cycle reason) ↔
      reason = (PhaseError.cycle).reason ∧ r.hasCycle = true ∧ policy s o = .error := by
  by_cases hcycle : r.hasCycle = true ∧ policy s o = .error
  · rw [decide_of_cycle hg hvalid hcycle.1 hcycle.2]
    simp [hcycle, eq_comm]
  · refine ⟨fun h => ?_, fun h => absurd h.2 hcycle⟩
    rw [decide_of_allowed hg hvalid hcycle] at h
    exact absurd trivial (compileGraph_not_refusal h)

/-- An artifact of a graph with a cycle keeps the order of declaration and says so; any other
artifact has the warnings of the report. -/
theorem decide_eq_ok_spec {c : Catalog} {s : CompilerSettings} {o : CompileOptions} {r : Report}
    {g : Graph} {a : Artifact} (hg : r.graph = some g) (hlinked : g.WellLinked)
    (hcycle : r.hasCycle = g.hasCycle) (h : (decide c s o r).result = .ok a) :
    (g.Cyclic → a.warnings = r.warnings ++ [cycleWarning] ∧ a.order = g.ids) ∧
      (¬g.Cyclic → a.warnings = r.warnings) := by
  obtain ⟨g', hg', -, hcompiled⟩ := decide_eq_ok h
  obtain rfl : g = g' := Option.some.inj (hg.symm.trans hg')
  have hwarnings := compileGraph_warnings hcompiled
  rw [hcycle] at hwarnings
  constructor
  · intro hcyclic
    obtain ⟨made, hmade⟩ := compileGraph_eq_ok hcompiled
    have horder := hmade.order
    rw [Graph.compileOrder_of_cyclic hcyclic] at horder
    rw [(Graph.hasCycle_iff g).mpr hcyclic] at hwarnings
    refine ⟨hwarnings, ?_⟩
    rw [← Except.ok.inj horder, Graph.distinct_eq_self hlinked.nodup]
  · intro hacyclic
    have hsearch : g.hasCycle = false := by
      rw [← Bool.not_eq_true, Graph.hasCycle_iff]
      exact hacyclic
    rw [hsearch] at hwarnings
    simpa using hwarnings

end Compile

open Compile in
/-- The report on an input decides what becomes of it. It is refused as invalid exactly when there
are errors, and then with all findings. Otherwise it is refused for a cycle exactly when its links
have one and the policy is strict; and an artifact carries the warnings of the report, with a note
behind them exactly when there is a cycle, in which case the nodes keep the order of their
declaration. -/
theorem compile_decided_by_report {c : Catalog} {s : CompilerSettings} {o : CompileOptions}
    {input : GraphInput} {r : Report} (h : report (some c) o.entryNodeId input = .ok r) :
    (∀ e, (compile c s o input).result = .error (.invalid e) ↔
      r.errors ≠ [] ∧ e = ⟨r.errors, r.warnings⟩) ∧
    (r.errors = [] → ∃ g, input.graph? = some g ∧
      (∀ reason, (compile c s o input).result = .error (.cycle reason) ↔
        reason = (PhaseError.cycle).reason ∧ g.Cyclic ∧ policy s o = .error) ∧
      ∀ a, (compile c s o input).result = .ok a →
        (g.Cyclic → a.warnings = r.warnings ++ [cycleWarning] ∧ a.order = g.ids) ∧
          (¬g.Cyclic → a.warnings = r.warnings)) := by
  rw [compile_result h]
  refine ⟨decide_eq_invalid_iff (exists_graph_of_report h), fun hvalid => ?_⟩
  obtain ⟨g, hg⟩ := exists_graph_of_report h hvalid
  obtain ⟨hinput, hreport⟩ := report_eq_ok h hg
  obtain ⟨-, hcycle, hlinked⟩ := Report.ofGraph_eq_ok hreport
  refine ⟨g, hinput, fun reason => ?_, fun a ha => ?_⟩
  · rw [decide_eq_cycle_iff hg hvalid, hcycle, Graph.hasCycle_iff]
  · exact decide_eq_ok_spec hg (hlinked ((Report.isValid_iff r).mpr hvalid)) hcycle ha

def mutualPair : Graph :=
  { nodes := [{ id := "A", type := "entry" }, { id := "B", type := "return" }],
    edges := [{ source := "A", target := "B" }, { source := "B", target := "A" }] }

/-- The pair is refused under the strict policy of the settings, and compiled in the order of
declaration when the option says so. -/
theorem compile_decided_by_report_mutualPair :
    ∃ r, Compile.report (some Catalog.builtin) none (.graph mutualPair) = .ok r ∧
      r.errors = [] ∧
      (compile Catalog.builtin {} {} (.graph mutualPair)).result =
        .error (.cycle (PhaseError.cycle).reason) ∧
      ∃ a, (compile Catalog.builtin {} { cyclePolicy := some .fallback } (.graph mutualPair)).result =
        .ok a ∧ a.warnings = r.warnings ++ [Compile.cycleWarning] ∧ a.order = ["A", "B"] := by
  have hcyclic : mutualPair.Cyclic := by
    rw [← Graph.hasCycle_iff]
    decide
  have hvalid : (Compile.report (some Catalog.builtin) none (.graph mutualPair)).toOption.map
      (·.errors) = some [] := by
    with_unfolding_all decide
  have hok : (compile Catalog.builtin {} { cyclePolicy := some .fallback }
      (.graph mutualPair)).result.isOk = true := by
    with_unfolding_all decide
  cases hr : Compile.report (some Catalog.builtin) none (.graph mutualPair) with
  | error e =>
      rw [hr] at hvalid
      contradiction
  | ok r =>
      rw [hr] at hvalid
      have hvalid : r.errors = [] := Option.some.inj hvalid
      obtain ⟨g, hg, hstrict, -⟩ :=
        (compile_decided_by_report (s := {}) (o := {}) hr).2 hvalid
      obtain ⟨g', hg', -, hfallback⟩ :=
        (compile_decided_by_report (s := {}) (o := { cyclePolicy := some .fallback }) hr).2 hvalid
      obtain rfl := Option.some.inj hg
      obtain rfl := Option.some.inj hg'
      refine ⟨r, rfl, hvalid, (hstrict _).mpr ⟨rfl, hcyclic, rfl⟩, ?_⟩
      cases ha : (compile Catalog.builtin {} { cyclePolicy := some .fallback }
          (.graph mutualPair)).result with
      | error e =>
          rw [ha] at hok
          contradiction
      | ok a => exact ⟨a, rfl, (hfallback a ha).1 hcyclic⟩

end DurableFlow
