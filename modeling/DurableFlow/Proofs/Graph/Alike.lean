import DurableFlow.Catalog.Builtin
import DurableFlow.Graph.Report
import DurableFlow.Step.Name
import Mathlib.Data.List.Forall2

/-!
What can be told of a node. Its configuration is looked up by key, never gone through as a whole, so two
nodes that agree on all lookups, on what they are called and on their type cannot be told apart. The
same then holds of graphs whose nodes agree one by one and whose edges are the same.
-/

namespace DurableFlow

/-- The members have the same value under every key. -/
def Members.Alike (ms ms' : Members) : Prop := ∀ key, get? key ms' = get? key ms

theorem Members.has_congr {key : String} {ms ms' : Members} (h : get? key ms' = get? key ms) :
    has key ms' = has key ms := by
  rw [has, h, has]

structure NodeData.Alike (d d' : NodeData) : Prop where
  label : d'.label = d.label
  stepName : d'.stepName = d.stepName
  config : d.config.Alike d'.config

/-- The nodes agree on everything that is looked up in a node. Their members may stand in another order,
and they may stand elsewhere on the canvas. -/
structure Node.Alike (n n' : Node) : Prop where
  id : n'.id = n.id
  type : n'.type = n.type
  data : n.data.Alike n'.data

/-- The graphs agree node by node and have the same edges. -/
structure Graph.Alike (g g' : Graph) : Prop where
  id : g'.id = g.id
  name : g'.name = g.name
  nodes : List.Forall₂ Node.Alike g.nodes g'.nodes
  edges : g'.edges = g.edges

/-! ### Lists whose items are related one by one -/

section Related

variable {α β γ : Type} {R : α → β → Prop} {xs : List α} {ys : List β}

theorem map_eq_of_forall₂ {f : α → γ} {f' : β → γ} (h : List.Forall₂ R xs ys)
    (hf : ∀ a b, R a b → f' b = f a) : ys.map f' = xs.map f := by
  induction h with
  | nil => rfl
  | cons hab _ ih => rw [List.map_cons, List.map_cons, hf _ _ hab, ih]

theorem filter_forall₂ {p : α → Bool} {p' : β → Bool} (h : List.Forall₂ R xs ys)
    (hp : ∀ a b, R a b → p' b = p a) : List.Forall₂ R (xs.filter p) (ys.filter p') :=
  List.rel_filter (fun a b hab => (Bool.eq_iff_iff.mp (hp a b hab)).symm) h

theorem find?_rel {p : α → Bool} {p' : β → Bool} (h : List.Forall₂ R xs ys)
    (hp : ∀ a b, R a b → p' b = p a) : Option.Rel R (xs.find? p) (ys.find? p') := by
  induction h with
  | nil => exact .none
  | @cons a b _ _ hab _ ih =>
      rw [List.find?_cons, List.find?_cons, hp a b hab]
      cases p a with
      | true => exact .some hab
      | false => exact ih

theorem rel_cases {x : Option α} {y : Option β} (h : Option.Rel R x y) :
    (x = none ∧ y = none) ∨ ∃ a b, x = some a ∧ y = some b ∧ R a b := by
  cases h with
  | none => exact .inl ⟨rfl, rfl⟩
  | some h => exact .inr ⟨_, _, rfl, rfl, h⟩

theorem isSome_of_rel {x : Option α} {y : Option β} (h : Option.Rel R x y) : y.isSome = x.isSome := by
  cases h <;> rfl

end Related

/-! ### Nodes -/

namespace Node.Alike

variable {n n' : Node}

theorem refl (n : Node) : n.Alike n := ⟨rfl, rfl, rfl, rfl, fun _ => rfl⟩

theorem config (h : n.Alike n') : n.config.Alike n'.config := h.data.config

theorem setting (h : n.Alike n') (key : String) : n'.setting key = n.setting key := by
  rw [Node.setting, h.config key, Node.setting]

theorem settingD (h : n.Alike n') (key : String) (default : Json) :
    n'.settingD key default = n.settingD key default := by
  rw [Node.settingD, h.config key, Node.settingD]

theorem displayName (h : n.Alike n') : n'.displayName = n.displayName := by
  simp only [Node.displayName, h.data.label, h.type, h.id]

theorem isEntry (h : n.Alike n') : n'.isEntry = n.isEntry := by
  rw [Node.isEntry, h.type, Node.isEntry]

theorem isReturn (h : n.Alike n') : n'.isReturn = n.isReturn := by
  rw [Node.isReturn, h.type, Node.isReturn]

theorem base (h : n.Alike n') : Step.base n' = Step.base n := by
  simp only [Step.base, h.data.stepName, h.data.label, h.type]

end Node.Alike

/-! ### Graphs -/

namespace Graph

theorem search_congr {g g' : Graph} (h : g'.successors = g.successors) (fuel : Nat)
    (path : List Visit) (visited : List String) :
    g'.search fuel path visited = g.search fuel path visited := by
  induction fuel, path, visited using search.induct g with
  | case1 path visited => rfl
  | case2 visited fuel => rfl
  | case3 visited fuel node path ih => exact ih
  | case4 visited fuel node child left path here hclose =>
      rw [search, search, if_pos hclose, if_pos hclose]
  | case5 visited fuel node child left path here hclose hvisited ih =>
      rw [search, search, if_neg hclose, if_neg hclose, if_pos hvisited, if_pos hvisited]
      exact ih
  | case6 visited fuel node child left path here hclose hvisited ih =>
      rw [search, search, if_neg hclose, if_neg hclose, if_neg hvisited, if_neg hvisited, h]
      exact ih

theorem searchRoots_congr {g g' : Graph} (h : g'.successors = g.successors) (fuel : Nat)
    (roots visited : List String) :
    g'.searchRoots fuel roots visited = g.searchRoots fuel roots visited := by
  induction roots generalizing visited with
  | nil => rfl
  | cons root roots ih =>
      simp only [searchRoots, h, search_congr h, ih]

theorem place_congr {g g' : Graph} (h : g'.successors = g.successors) (fuel : Nat) (line : Line)
    (placed : List String) : g'.place fuel line placed = g.place fuel line placed := by
  induction fuel generalizing line placed with
  | zero => rfl
  | succ fuel ih => simp only [place, h, ih]

namespace Alike

variable {g g' : Graph}

theorem ids (h : g.Alike g') : g'.ids = g.ids :=
  map_eq_of_forall₂ h.nodes fun _ _ hn => hn.id

theorem length_nodes (h : g.Alike g') : g'.nodes.length = g.nodes.length :=
  h.nodes.length_eq.symm

theorem node? (h : g.Alike g') (id : String) : Option.Rel Node.Alike (g.node? id) (g'.node? id) :=
  find?_rel h.nodes fun _ _ hn => by rw [hn.id]

theorem declares (h : g.Alike g') : g'.declares = g.declares := by
  funext e
  rw [Graph.declares, h.ids, Graph.declares]

theorem successors (h : g.Alike g') : g'.successors = g.successors := by
  funext id
  rw [Graph.successors, h.edges, h.declares, Graph.successors]

theorem inDegree (h : g.Alike g') : g'.inDegree = g.inDegree := by
  funext id
  rw [Graph.inDegree, h.edges, h.declares, Graph.inDegree]

theorem hasCycle (h : g.Alike g') : g'.hasCycle = g.hasCycle := by
  simp only [Graph.hasCycle, searchRoots_congr h.successors, h.length_nodes, h.edges, h.ids]

theorem placed (h : g.Alike g') : g'.placed = g.placed := by
  have hline : g'.startLine = g.startLine := by rw [startLine, h.ids, h.inDegree, startLine]
  rw [Graph.placed, place_congr h.successors, h.length_nodes, h.edges, hline, Graph.placed]

theorem order (h : g.Alike g') : g'.order = g.order := by
  rw [Graph.order, h.placed, unplaced, h.ids, Graph.order, unplaced]

theorem stepNames (h : g.Alike g') : Step.names g' = Step.names g := by
  have hfrom : ∀ {ns ns' : List Node}, List.Forall₂ Node.Alike ns ns' → ∀ named,
      Step.namesFrom named ns' = Step.namesFrom named ns := by
    intro ns ns' hns
    induction hns with
    | nil => exact fun _ => rfl
    | cons hn _ ih =>
        intro named
        simp only [Step.namesFrom, hn.id, hn.base, ih]
  exact hfrom h.nodes []

end Alike

end Graph

/-! ### What a report says apart from the configurations -/

namespace Report

variable {g g' : Graph}

theorem idErrors_alike (h : g.Alike g') : idErrors g' = idErrors g := by
  rw [idErrors, h.ids, idErrors]

theorem typeErrors_alike (h : g.Alike g') : typeErrors g' = typeErrors g := by
  refine map_eq_of_forall₂ (filter_forall₂ h.nodes fun _ _ hn => ?_) fun _ _ hn => ?_
  · rw [hn.type]
  · rw [hn.id]

theorem edgeErrors_alike (h : g.Alike g') (seen : List String) (e : Edge) :
    edgeErrors g' seen e = edgeErrors g seen e := by
  simp only [edgeErrors, h.ids]

theorem edgeErrorsFrom_alike (h : g.Alike g') (seen : List String) (es : List Edge) :
    edgeErrorsFrom g' seen es = edgeErrorsFrom g seen es := by
  induction es generalizing seen with
  | nil => rfl
  | cons e es ih => rw [edgeErrorsFrom, edgeErrors_alike h, ih, edgeErrorsFrom]

theorem allEdgeWarnings_alike (h : g.Alike g') : allEdgeWarnings g' = allEdgeWarnings g := by
  rw [allEdgeWarnings, h.edges, allEdgeWarnings]

theorem findEntry_alike (h : g.Alike g') (asked : Option String) :
    findEntry g' asked = findEntry g asked := by
  have hentries : (g'.nodes.filter Node.isEntry).map (·.id) =
      (g.nodes.filter Node.isEntry).map (·.id) :=
    map_eq_of_forall₂ (filter_forall₂ h.nodes fun _ _ hn => hn.isEntry) fun _ _ hn => hn.id
  have hnode (id : String) : (g'.node? id).isSome = (g.node? id).isSome := isSome_of_rel (h.node? id)
  simp only [findEntry, hentries, hnode]

theorem any_isReturn_alike (h : g.Alike g') :
    g'.nodes.any Node.isReturn = g.nodes.any Node.isReturn := by
  have hmap : g'.nodes.map Node.isReturn = g.nodes.map Node.isReturn :=
    map_eq_of_forall₂ h.nodes fun _ _ hn => hn.isReturn
  rw [← Function.id_comp Node.isReturn, ← List.any_map, hmap, List.any_map]

end Report

end DurableFlow
