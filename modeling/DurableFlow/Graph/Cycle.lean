import DurableFlow.Graph.Order

/-!
Finding cycles by depth-first search. The search keeps the path from its root to the current node,
with the successors that each node on the path has left to visit; a successor that is already on the
path closes a cycle.
-/

namespace DurableFlow.Graph

/-- A node on the path of the search, with the successors left to visit. -/
structure Visit where
  node : String
  left : List String
  deriving Repr

/-- Searches from the path on. Gives the visited nodes, or nothing when a cycle was found. Every step
shortens the work left, which is bounded by the links and the nodes. -/
def search (g : Graph) : (fuel : Nat) → (path : List Visit) → (visited : List String) →
    Option (List String)
  | 0, _, visited => some visited
  | _ + 1, [], visited => some visited
  | fuel + 1, ⟨_, []⟩ :: path, visited => search g fuel path visited
  | fuel + 1, ⟨node, child :: left⟩ :: path, visited =>
    let here : Visit := ⟨node, left⟩
    if (here :: path).any (fun v => v.node == child) then none
    else if child ∈ visited then search g fuel (here :: path) visited
    else search g fuel (⟨child, g.successors child⟩ :: here :: path) (child :: visited)

/-- Searches from each root that was not visited before. -/
def searchRoots (g : Graph) (fuel : Nat) : (roots visited : List String) → Bool
  | [], _ => false
  | root :: roots, visited =>
    if root ∈ visited then searchRoots g fuel roots visited
    else
      match search g fuel [⟨root, g.successors root⟩] (root :: visited) with
      | none => true
      | some visited => searchRoots g fuel roots visited

/-- Whether the links between declared nodes contain a directed cycle. -/
def hasCycle (g : Graph) : Bool :=
  searchRoots g (2 * (g.nodes.length + g.edges.length) + 2) g.ids []

end DurableFlow.Graph
