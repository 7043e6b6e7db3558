import DurableFlow.Graph.Cycle
import DurableFlow.Proofs.Graph.Link

/-!
The search for cycles. The nodes of the path link each to the one above it, so a successor that is
on the path closes a cycle. A visited node that has left the path is done: all its successors were
done before it, so it cannot lie on a cycle.
-/

namespace DurableFlow.Graph

open Relation

def pathNodes (path : List Visit) : List String := path.map (·.node)

@[simp] theorem pathNodes_nil : pathNodes [] = [] := rfl

@[simp] theorem pathNodes_cons (v : Visit) (path : List Visit) :
    pathNodes (v :: path) = v.node :: pathNodes path := rfl

theorem any_node_iff {path : List Visit} {id : String} :
    path.any (fun v => v.node == id) = true ↔ id ∈ pathNodes path := by
  simp [pathNodes]

/-- The path of a search, from its current node down to its root. The successors of a node that it
has behind it are visited, and none of them is the node itself or below it on the path. -/
def Trail (g : Graph) (visited : List String) : List Visit → Prop
  | [] => True
  | v :: below =>
      v.node ∈ visited ∧ v.node ∉ pathNodes below ∧
        (∀ b ∈ v.left, g.Link v.node b) ∧
        (∀ b, g.Link v.node b → b ∈ v.left ∨ (b ∈ visited ∧ b ∉ pathNodes (v :: below))) ∧
        (∀ w ∈ below.head?, g.Link w.node v.node) ∧ Trail g visited below

/-- What holds while a graph is searched. -/
structure Searching (g : Graph) (path : List Visit) (visited : List String) : Prop where
  trail : Trail g visited path
  declared : ∀ id ∈ visited, id ∈ g.ids
  done : ∀ a ∈ visited, a ∉ pathNodes path →
    ¬g.OnCycle a ∧ ∀ b, g.Link a b → b ∈ visited ∧ b ∉ pathNodes path

theorem Trail.mono {g : Graph} {visited visited' : List String} (hsub : visited ⊆ visited')
    {path : List Visit} (h : Trail g visited path) : Trail g visited' path := by
  induction path with
  | nil => trivial
  | cons v below ih =>
      obtain ⟨hv, hnew, hleft, hbehind, hhead, hbelow⟩ := h
      refine ⟨hsub hv, hnew, hleft, ?_, hhead, ih hbelow⟩
      intro b hb
      exact (hbehind b hb).imp_right fun h => ⟨hsub h.1, h.2⟩

theorem Trail.mem_visited {g : Graph} {visited : List String} {path : List Visit}
    (h : Trail g visited path) {id : String} (hid : id ∈ pathNodes path) : id ∈ visited := by
  induction path with
  | nil => simp at hid
  | cons v below ih =>
      rcases List.mem_cons.mp hid with rfl | hid
      · exact h.1
      · exact ih h.2.2.2.2.2 hid

/-- Every node of the path leads to the current one. -/
theorem Trail.reaches {g : Graph} {visited : List String} {v : Visit} {below : List Visit}
    (h : Trail g visited (v :: below)) {id : String} (hid : id ∈ pathNodes (v :: below)) :
    ReflTransGen g.Link id v.node := by
  induction below generalizing v with
  | nil =>
      rw [pathNodes_cons, pathNodes_nil, List.mem_singleton] at hid
      exact hid ▸ .refl
  | cons w rest ih =>
      rcases List.mem_cons.mp hid with rfl | hid
      · exact .refl
      · have hlink : g.Link w.node v.node := h.2.2.2.2.1 w (by simp)
        exact (ih h.2.2.2.2.2 hid).tail hlink

/-- A successor that is on the path closes a cycle. -/
theorem Searching.closes {g : Graph} {node child : String} {left : List String}
    {path : List Visit} {visited : List String}
    (h : Searching g (⟨node, child :: left⟩ :: path) visited)
    (hchild : child ∈ pathNodes (⟨node, child :: left⟩ :: path)) : g.Cyclic := by
  have hlink : g.Link node child := h.trail.2.2.1 child List.mem_cons_self
  exact ⟨child, TransGen.tail'_iff.mpr ⟨node, h.trail.reaches hchild, hlink⟩⟩

theorem Searching.pop {g : Graph} {node : String} {path : List Visit} {visited : List String}
    (h : Searching g (⟨node, []⟩ :: path) visited) : Searching g path visited := by
  obtain ⟨-, hnew, -, hbehind, -, hbelow⟩ := h.trail
  have hsucc : ∀ b, g.Link node b → b ∈ visited ∧ b ∉ pathNodes (⟨node, []⟩ :: path) := by
    intro b hb
    exact (hbehind b hb).resolve_left (by simp)
  -- The nodes that were done before are closed under links, so no cycle leads back to the node.
  have hclosed : ∀ a b, ReflTransGen g.Link a b →
      a ∈ visited ∧ a ∉ pathNodes (⟨node, []⟩ :: path) →
        b ∈ visited ∧ b ∉ pathNodes (⟨node, []⟩ :: path) := by
    intro a b hab ha
    induction hab with
    | refl => exact ha
    | tail _ hlink ih => exact (h.done _ ih.1 ih.2).2 _ hlink
  have hnode : ¬g.OnCycle node := by
    intro hcycle
    obtain ⟨b, hlink, hback⟩ := TransGen.head'_iff.mp hcycle
    have := (hclosed b node hback (hsucc b hlink)).2
    simp at this
  refine ⟨hbelow, h.declared, ?_⟩
  intro a ha hapath
  by_cases heq : a = node
  · subst heq
    refine ⟨hnode, fun b hb => ⟨(hsucc b hb).1, ?_⟩⟩
    intro hmem
    exact (hsucc b hb).2 (List.mem_cons_of_mem _ hmem)
  · obtain ⟨hno, hnext⟩ := h.done a ha (by simp [heq, hapath])
    refine ⟨hno, fun b hb => ⟨(hnext b hb).1, ?_⟩⟩
    intro hmem
    exact (hnext b hb).2 (List.mem_cons_of_mem _ hmem)

theorem Searching.skip {g : Graph} {node child : String} {left : List String}
    {path : List Visit} {visited : List String}
    (h : Searching g (⟨node, child :: left⟩ :: path) visited)
    (hpath : child ∉ pathNodes (⟨node, child :: left⟩ :: path)) (hvisited : child ∈ visited) :
    Searching g (⟨node, left⟩ :: path) visited := by
  obtain ⟨hmem, hnew, hleft, hbehind, hhead, hbelow⟩ := h.trail
  refine ⟨⟨hmem, hnew, ?_, ?_, hhead, hbelow⟩, h.declared, h.done⟩
  · intro b hb
    exact hleft b (List.mem_cons_of_mem child hb)
  · intro b hb
    rcases hbehind b hb with hin | hout
    · rcases List.mem_cons.mp hin with rfl | hin
      · exact .inr ⟨hvisited, hpath⟩
      · exact .inl hin
    · exact .inr hout

theorem Searching.done_visit {g : Graph} {id : String} {path : List Visit} {visited : List String}
    (h : Searching g path visited) (hnew : id ∉ visited) :
    ∀ a ∈ id :: visited, a ∉ id :: pathNodes path →
      ¬g.OnCycle a ∧ ∀ b, g.Link a b → b ∈ id :: visited ∧ b ∉ id :: pathNodes path := by
  intro a ha hapath
  rw [List.mem_cons, not_or] at hapath
  obtain ⟨hno, hnext⟩ := h.done a ((List.mem_cons.mp ha).resolve_left hapath.1) hapath.2
  refine ⟨hno, fun b hb => ?_⟩
  obtain ⟨hb, hbpath⟩ := hnext b hb
  refine ⟨List.mem_cons_of_mem id hb, ?_⟩
  rw [List.mem_cons, not_or]
  exact ⟨ne_of_mem_of_not_mem hb hnew, hbpath⟩

/-- A successor that was not visited before becomes the current node. -/
theorem Searching.push {g : Graph} {node child : String} {left : List String}
    {path : List Visit} {visited : List String}
    (h : Searching g (⟨node, child :: left⟩ :: path) visited) (hvisited : child ∉ visited) :
    Searching g (⟨child, g.successors child⟩ :: ⟨node, left⟩ :: path) (child :: visited) := by
  obtain ⟨hmem, hnew, hleft, hbehind, hhead, hbelow⟩ := h.trail
  have hlink : g.Link node child := hleft child List.mem_cons_self
  have hsub : visited ⊆ child :: visited := List.subset_cons_self child visited
  have hpath : child ∉ pathNodes (⟨node, left⟩ :: path) := fun hin =>
    hvisited (h.trail.mem_visited hin)
  refine ⟨⟨List.mem_cons_self, hpath, fun b hb => mem_successors.mp hb,
    fun b hb => .inl (mem_successors.mpr hb), ?_, ?_⟩,
    List.forall_mem_cons.mpr ⟨hlink.target_mem, h.declared⟩, h.done_visit hvisited⟩
  · intro w hw
    rw [List.head?_cons, Option.mem_some_iff] at hw
    exact hw ▸ hlink
  · refine ⟨hsub hmem, hnew, fun b hb => hleft b (List.mem_cons_of_mem child hb), ?_, hhead,
      hbelow.mono hsub⟩
    intro b hb
    rcases hbehind b hb with hin | hout
    · rcases List.mem_cons.mp hin with rfl | hin
      · exact .inr ⟨List.mem_cons_self, hpath⟩
      · exact .inl hin
    · exact .inr ⟨hsub hout.1, hout.2⟩

theorem Searching.root {g : Graph} {root : String} {visited : List String}
    (h : Searching g [] visited) (hroot : root ∈ g.ids) (hvisited : root ∉ visited) :
    Searching g [⟨root, g.successors root⟩] (root :: visited) :=
  ⟨⟨List.mem_cons_self, by simp, fun _ hb => mem_successors.mp hb,
    fun _ hb => .inl (mem_successors.mpr hb), by simp, trivial⟩,
    List.forall_mem_cons.mpr ⟨hroot, h.declared⟩, h.done_visit hvisited⟩

/-! ### The work left -/

def nodesLeft (g : Graph) (visited : List String) : Nat :=
  (distinct g.ids).countP fun id => !visited.contains id

/-- The steps that a search can still make: each takes a successor off the path or a node. -/
def workLeft (g : Graph) (path : List Visit) (visited : List String) : Nat :=
  path.length + (path.flatMap (·.left)).length + (g.nodesLeft visited + g.linksLeft visited)

theorem nodesLeft_le (g : Graph) (visited : List String) : g.nodesLeft visited ≤ g.nodes.length := by
  refine List.countP_le_length.trans ((length_distinct_le g.ids).trans ?_)
  simp [ids]

theorem nodesLeft_cons {g : Graph} {visited : List String} {id : String} (hid : id ∈ g.ids)
    (hnew : id ∉ visited) : g.nodesLeft visited = g.nodesLeft (id :: visited) + 1 := by
  rw [nodesLeft, countP_split _ (fun x => x == id)]
  congr 1
  · refine List.countP_congr fun x _ => ?_
    simp [and_comm]
  · have hone : (distinct g.ids).count id = 1 :=
      List.count_eq_one_of_mem (nodup_distinct g.ids) (mem_distinct.mpr hid)
    rw [← hone, List.count]
    refine List.countP_congr fun x _ => ?_
    by_cases hx : x = id <;> simp [hx, hnew]

theorem workLeft_nil_le (g : Graph) (visited : List String) :
    g.workLeft [] visited ≤ g.nodes.length + g.edges.length := by
  have hnodes := nodesLeft_le g visited
  have hlinks := linksLeft_le g visited
  simp only [workLeft, List.length_nil, List.flatMap_nil]
  omega

theorem workLeft_pop (g : Graph) (node : String) (path : List Visit) (visited : List String) :
    g.workLeft (⟨node, []⟩ :: path) visited = g.workLeft path visited + 1 := by
  simp only [workLeft, List.length_cons, List.flatMap_cons, List.nil_append]
  omega

theorem workLeft_skip (g : Graph) (node child : String) (left : List String) (path : List Visit)
    (visited : List String) :
    g.workLeft (⟨node, child :: left⟩ :: path) visited =
      g.workLeft (⟨node, left⟩ :: path) visited + 1 := by
  simp only [workLeft, List.length_cons, List.flatMap_cons, List.length_append]
  omega

/-- A visit only moves work: the node and the links that leave it are on the path from then on. -/
theorem workLeft_visit {g : Graph} {id : String} {visited : List String} (hid : id ∈ g.ids)
    (hnew : id ∉ visited) (path : List Visit) :
    g.workLeft (⟨id, g.successors id⟩ :: path) (id :: visited) = g.workLeft path visited := by
  have hnodes := nodesLeft_cons hid hnew
  have hlinks : g.linksLeft visited = g.linksLeft (id :: visited) + (g.successors id).length :=
    linksLeft_cons hnew (by simp)
  simp only [workLeft, List.length_cons, List.flatMap_cons, List.length_append]
  omega

/-- With fuel for the work left, a search finds a cycle or ends with all that it visited done. -/
theorem Searching.run {g : Graph} {fuel : Nat} {path : List Visit} {visited : List String}
    (h : Searching g path visited) (hfuel : g.workLeft path visited ≤ fuel) :
    (search g fuel path visited = none ∧ g.Cyclic) ∨
      ∃ last, search g fuel path visited = some last ∧ visited ⊆ last ∧ Searching g [] last := by
  induction fuel generalizing path visited with
  | zero =>
      have hnil : path = [] := List.length_eq_zero_iff.mp (by rw [workLeft] at hfuel; omega)
      subst hnil
      exact .inr ⟨visited, rfl, List.Subset.refl visited, h⟩
  | succ fuel ih =>
      match path with
      | [] => exact .inr ⟨visited, rfl, List.Subset.refl visited, h⟩
      | ⟨node, []⟩ :: path =>
          rw [search]
          rw [workLeft_pop] at hfuel
          exact ih h.pop (by omega)
      | ⟨node, child :: left⟩ :: path =>
          rw [search]
          rw [workLeft_skip] at hfuel
          simp only [any_node_iff]
          by_cases hpath : child ∈ pathNodes (⟨node, left⟩ :: path)
          · rw [if_pos hpath]
            exact .inl ⟨rfl, h.closes hpath⟩
          · rw [if_neg hpath]
            by_cases hvisited : child ∈ visited
            · rw [if_pos hvisited]
              exact ih (h.skip hpath hvisited) (by omega)
            · rw [if_neg hvisited]
              have hlink : g.Link node child := h.trail.2.2.1 child List.mem_cons_self
              have hpushed := workLeft_visit hlink.target_mem hvisited (⟨node, left⟩ :: path)
              rcases ih (h.push hvisited) (by omega) with hfound | ⟨last, hlast, hsub, hdone⟩
              · exact .inl hfound
              · exact .inr ⟨last, hlast, (List.cons_subset.mp hsub).2, hdone⟩

/-- Searching from every root finds a cycle, or every root is done in the end. -/
theorem Searching.roots {g : Graph} {fuel : Nat} (hfuel : g.nodes.length + g.edges.length ≤ fuel)
    {roots visited : List String} (hroots : roots ⊆ g.ids) (h : Searching g [] visited) :
    (searchRoots g fuel roots visited = true ∧ g.Cyclic) ∨
      (searchRoots g fuel roots visited = false ∧
        ∃ last, visited ⊆ last ∧ roots ⊆ last ∧ Searching g [] last) := by
  induction roots generalizing visited with
  | nil => exact .inr ⟨rfl, visited, List.Subset.refl visited, List.nil_subset visited, h⟩
  | cons root roots ih =>
      have hroot : root ∈ g.ids := hroots List.mem_cons_self
      have hrest : roots ⊆ g.ids := fun x hx => hroots (List.mem_cons_of_mem root hx)
      rw [searchRoots]
      by_cases hvisited : root ∈ visited
      · rw [if_pos hvisited]
        rcases ih hrest h with hfound | ⟨hnone, last, hsub, hin, hdone⟩
        · exact .inl hfound
        · exact .inr ⟨hnone, last, hsub, List.cons_subset.mpr ⟨hsub hvisited, hin⟩, hdone⟩
      · rw [if_neg hvisited]
        have hleft : g.workLeft [⟨root, g.successors root⟩] (root :: visited) ≤ fuel :=
          (workLeft_visit hroot hvisited []).trans_le ((workLeft_nil_le g visited).trans hfuel)
        rcases (h.root hroot hvisited).run hleft with ⟨hfound, hcyclic⟩ | ⟨last, hlast, hsub, hdone⟩
        · rw [hfound]
          exact .inl ⟨rfl, hcyclic⟩
        · rw [hlast]
          rcases ih hrest hdone with hfound | ⟨hnone, last', hsub', hin, hdone'⟩
          · exact .inl hfound
          · obtain ⟨hrootIn, hvisitedIn⟩ := List.cons_subset.mp (List.Subset.trans hsub hsub')
            exact .inr ⟨hnone, last', hvisitedIn, List.cons_subset.mpr ⟨hrootIn, hin⟩, hdone'⟩

theorem hasCycle_iff (g : Graph) : g.hasCycle = true ↔ g.Cyclic := by
  have hstart : Searching g [] [] := ⟨trivial, by simp, by simp⟩
  have hfuel : g.nodes.length + g.edges.length ≤ 2 * (g.nodes.length + g.edges.length) + 2 := by
    omega
  rw [hasCycle]
  rcases hstart.roots hfuel (List.Subset.refl g.ids) with ⟨hfound, hcyclic⟩ | ⟨hnone, last, -, hall, hdone⟩
  · exact iff_of_true hfound hcyclic
  · refine iff_of_false (by simp [hnone]) ?_
    rintro ⟨id, hcycle⟩
    exact (hdone.done id (hall hcycle.mem) (by simp)).1 hcycle

end DurableFlow.Graph
