import DurableFlow.Catalog.Builtin
import DurableFlow.Proofs.Compile.Success
import DurableFlow.Proofs.Module.Layout

/-!
The order of the fragments in a module. When the graph has no cycle, the fragments of its nodes
follow its edges, so a fragment that reads the state of another node stands behind the one that
assigns it.
-/

namespace DurableFlow

namespace Compile

/-- The fragments of two nodes stand in the source of an artifact, the first before the second. -/
def Precedes (a : Artifact) (made : List String) (u v f f' : String) : Prop :=
  ∃ i j : Nat, i < j ∧ a.order[i]? = some u ∧ made[i]? = some f ∧ a.order[j]? = some v ∧
    made[j]? = some f' ∧ Text.Before a.moduleSource (Text.indentBy Module.methodMargin f)
      (Text.indentBy Module.methodMargin f')

/-- The fragments of an artifact, one for each node, follow the edges of the graph, and the state
that the input of a node reads is assigned by a fragment before that of the node. -/
structure DefinedBeforeUse (ctx : Context) (a : Artifact) (made : List String) : Prop where
  nodup : a.order.Nodup
  complete : a.order.Perm ctx.graph.ids
  fragments : Made ctx a.order made
  standing : ∃ before behind, a.moduleSource = before ++ Module.laidOut made ++ behind
  forward : ∀ e ∈ ctx.graph.edges, ∃ f f', Precedes a made e.source e.target f f'
  defined : ∀ n ∈ ctx.graph.nodes, ∀ e rest, ctx.graph.incoming n.id = e :: rest →
    ctx.input n = stateEntry e.source ++ "?.output || event.payload" ∧
      ∃ f f', Precedes a made e.source n.id f f' ∧
        Text.Occurs (assignment e.source) (Text.indentBy Module.methodMargin f)

/-! ### Places in the order -/

theorem made_getElem {ctx : Context} {ids made : List String} (h : Made ctx ids made) {i : Nat}
    {id : String} (hi : ids[i]? = some id) :
    ∃ f n, made[i]? = some f ∧ ctx.graph.node? id = some n ∧
      (Fragment.ofNode n ctx).result = .ok f := by
  induction h generalizing i with
  | nil => simp at hi
  | cons hfirst _ ih =>
      cases i with
      | zero =>
          obtain ⟨n, hn, hf⟩ := hfirst
          obtain rfl := Option.some.inj hi
          exact ⟨_, n, rfl, hn, hf⟩
      | succ i => exact ih hi

theorem node?_id {g : Graph} {id : String} {n : Node} (h : g.node? id = some n) : n.id = id := by
  simpa using List.find?_some h

theorem node?_of_mem {g : Graph} (h : g.ids.Nodup) {n : Node} (hn : n ∈ g.nodes) :
    g.node? n.id = some n := by
  rw [Graph.node?, List.find?_eq_some_iff_append]
  obtain ⟨before, behind, hsplit⟩ := List.append_of_mem hn
  refine ⟨beq_self_eq_true n.id, before, behind, hsplit, fun m hm => ?_⟩
  rw [Graph.ids, hsplit, List.map_append, List.map_cons] at h
  have hnew : m.id ≠ n.id := fun heq =>
    List.disjoint_of_nodup_append h (List.mem_map_of_mem hm) (heq ▸ List.mem_cons_self)
  simpa using hnew

/-- Fragments that are laid out in some order stand in it in the source. -/
theorem precedes_of_lt {ctx : Context} {a : Artifact} {made : List String}
    (hmade : Made ctx a.order made)
    (hsource : ∃ before behind, a.moduleSource = before ++ Module.laidOut made ++ behind)
    {u v : String} (hv : v ∈ a.order) (hlt : a.order.idxOf u < a.order.idxOf v) :
    ∃ f f' n, Precedes a made u v f f' ∧ n.id = u ∧ (Fragment.ofNode n ctx).result = .ok f := by
  have hjlt : a.order.idxOf v < a.order.length := List.idxOf_lt_length_iff.mpr hv
  have hu : a.order[a.order.idxOf u]? = some u := by
    rw [List.getElem?_eq_getElem (hlt.trans hjlt), List.getElem_idxOf]
  have hv : a.order[a.order.idxOf v]? = some v := by
    rw [List.getElem?_eq_getElem hjlt, List.getElem_idxOf]
  obtain ⟨f, n, hf, hn, hofNode⟩ := made_getElem hmade hu
  obtain ⟨f', _, hf', -, -⟩ := made_getElem hmade hv
  refine ⟨f, f', n, ⟨_, _, hlt, hu, hf, hv, hf', ?_⟩, node?_id hn, hofNode⟩
  obtain ⟨before, behind, htext⟩ := hsource
  rw [htext]
  refine (Text.before_intercalate "\n\n" hlt ?_ ?_).within before behind
  · rw [List.getElem?_map, hf, Option.map_some]
  · rw [List.getElem?_map, hf', Option.map_some]

theorem occurs_assignment {ctx : Context} {n : Node} {f : String}
    (h : (Fragment.ofNode n ctx).result = .ok f) :
    Text.Occurs (assignment n.id) (Text.indentBy Module.methodMargin f) :=
  (Fragment.occurs_ofNode h).indentBy (single_assignment n.id) Module.methodMargin

end Compile

open Compile in
/-- Every artifact of a graph without cycles has its fragments in an order in which each state is
assigned before it is read. -/
theorem compile_definedBeforeUse {c : Catalog} {s : CompilerSettings} {o : CompileOptions}
    {input : GraphInput} {a : Artifact} (h : (compile c s o input).result = .ok a) :
    ∃ g, input.graph? = some g ∧
      (g.Acyclic → ∃ made, DefinedBeforeUse (Context.ofGraph g c s) a made) := by
  obtain ⟨g, _, hg, -, -, -⟩ := compile_eq_ok h
  refine ⟨g, hg, fun hacyclic => ?_⟩
  obtain ⟨hlinked, ⟨made, hcompiled⟩, -⟩ := compiled_of_compile h hg
  have horder : a.order = g.placed := by
    have hids := hcompiled.order
    rw [Graph.compileOrder_of_acyclic hacyclic] at hids
    exact (Except.ok.inj hids).symm
  have hperm : a.order.Perm g.ids := by
    rw [horder, ← Graph.distinct_eq_self hlinked.nodup]
    exact (Graph.order_eq_ok hacyclic).2
  have hsource : ∃ before behind, a.moduleSource = before ++ Module.laidOut made ++ behind := by
    obtain ⟨_, -, htext⟩ := Module.source_eq_ok hcompiled.source
    exact ⟨_, _, htext⟩
  -- An edge is a link because both of its ends are declared, and links lead forward in the order.
  have hforward : ∀ e ∈ g.edges, ∃ f f' n, Precedes a made e.source e.target f f' ∧
      n.id = e.source ∧ (Fragment.ofNode n (Context.ofGraph g c s)).result = .ok f := by
    intro e he
    have hlink : g.Link e.source e.target := ⟨e, he, hlinked.declares e he, rfl, rfl⟩
    have htarget : e.target ∈ a.order := hperm.mem_iff.mpr hlink.target_mem
    refine precedes_of_lt hcompiled.made hsource htarget ?_
    rw [horder] at htarget ⊢
    exact (Graph.placed_sorted hlink htarget).2
  refine ⟨made, ?_, hperm, hcompiled.made, hsource, ?_, ?_⟩
  · rw [horder]
    exact Graph.nodup_placed g
  · intro e he
    obtain ⟨f, f', _, hprecedes, -⟩ := hforward e he
    exact ⟨f, f', hprecedes⟩
  · intro n hn e rest hincoming
    have hincoming : g.incoming n.id = e :: rest := hincoming
    refine ⟨by simp only [Context.input, Context.ofGraph, hincoming], ?_⟩
    have he : e ∈ g.incoming n.id := by
      rw [hincoming]
      exact List.mem_cons_self
    obtain ⟨hedge, htarget⟩ := List.mem_filter.mp he
    obtain ⟨f, f', m, hprecedes, hid, hofNode⟩ := hforward e hedge
    rw [beq_iff_eq] at htarget
    refine ⟨f, f', htarget ▸ hprecedes, ?_⟩
    rw [← hid]
    exact occurs_assignment hofNode

def readerFirst : Graph :=
  { nodes := [{ id := "b", type := "return" }, { id := "a", type := "entry" }],
    edges := [{ source := "a", target := "b" }] }

theorem compile_definedBeforeUse_readerFirst :
    ∃ a, (compile Catalog.builtin {} {} (.graph readerFirst)).result = .ok a ∧
      readerFirst.Acyclic ∧
      ∃ made, Compile.DefinedBeforeUse (Context.ofGraph readerFirst Catalog.builtin {}) a made := by
  have hok : (compile Catalog.builtin {} {} (.graph readerFirst)).result.isOk = true := by
    with_unfolding_all decide
  have hsearch : readerFirst.hasCycle = false := by decide
  have hacyclic : readerFirst.Acyclic := by
    rw [← Graph.not_cyclic_iff, ← Graph.hasCycle_iff, hsearch]
    exact Bool.false_ne_true
  cases h : (compile Catalog.builtin {} {} (.graph readerFirst)).result with
  | error e =>
      rw [h] at hok
      contradiction
  | ok a =>
      obtain ⟨g, hg, hdefined⟩ := compile_definedBeforeUse h
      obtain rfl := Option.some.inj hg
      exact ⟨a, rfl, hacyclic, hdefined hacyclic⟩

end DurableFlow
