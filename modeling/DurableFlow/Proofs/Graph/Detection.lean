import DurableFlow.Compile
import DurableFlow.Proofs.Graph.Placement
import DurableFlow.Proofs.Graph.Search
import Mathlib.Tactic.TFAE

/-!
The two ways to notice a cycle. The report on a graph searches for one, and the order of the nodes
runs into one; they notice the same graphs, namely those with a cycle of links.
-/

namespace DurableFlow.Graph

open Classical in
noncomputable def nodesBehindCycle (g : Graph) : List String :=
  g.ids.filter fun id => g.BehindCycle id

theorem order_of_cyclic {g : Graph} (h : g.Cyclic) : g.order = .error g.nodesBehindCycle := by
  rw [order_eq_error h, unplaced_placed, nodesBehindCycle]

theorem compileOrder_of_acyclic {g : Graph} (h : g.Acyclic) :
    Compile.order g = ⟨.ok g.placed, []⟩ := by
  rw [Compile.order, (order_eq_ok h).1]
  rfl

def fallbackNotice (stuck : List String) : Notice :=
  ⟨.warning, "Cycle involving " ++ ", ".intercalate stuck ++ "; using declaration order"⟩

theorem compileOrder_of_cyclic {g : Graph} (h : g.Cyclic) :
    Compile.order g = ⟨.ok (distinct g.ids), [fallbackNotice g.nodesBehindCycle]⟩ := by
  rw [Compile.order, order_of_cyclic h]
  rfl

/-- The search notices a cycle exactly when the links have one, exactly when the strict order fails,
and exactly when the lenient order gives the distinct ids as declared, with a notice. The failure
and the notice name the nodes on and behind cycles. -/
theorem cycle_detectors_agree (g : Graph) :
    [g.Cyclic,
     g.hasCycle = true,
     ∃ stuck, g.order = .error stuck,
     g.order = .error g.nodesBehindCycle,
     Compile.order g = ⟨.ok (distinct g.ids), [fallbackNotice g.nodesBehindCycle]⟩].TFAE := by
  tfae_have 1 ↔ 2 := (hasCycle_iff g).symm
  tfae_have 1 → 4 := order_of_cyclic
  tfae_have 4 → 3 := fun h => ⟨g.nodesBehindCycle, h⟩
  tfae_have 3 → 1 := by
    rintro ⟨stuck, hstuck⟩
    by_contra hno
    rw [(order_eq_ok ((not_cyclic_iff g).mp hno)).1] at hstuck
    contradiction
  tfae_have 1 → 5 := compileOrder_of_cyclic
  tfae_have 5 → 1 := by
    intro hfallback
    by_contra hno
    rw [compileOrder_of_acyclic ((not_cyclic_iff g).mp hno)] at hfallback
    simp at hfallback
  tfae_finish

end DurableFlow.Graph
