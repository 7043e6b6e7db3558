import DurableFlow.Graph.Basic

/-!
The order in which nodes run. Nodes without incoming links come first, in the order of their
declaration; a node joins the waiting line when its last incoming link is released. When a cycle
keeps nodes from being placed, the order of declaration is used instead.
-/

namespace DurableFlow.Graph

def distinct : List String → List String
  | [] => []
  | x :: xs => x :: (distinct xs).filter (· ≠ x)

def inDegree (g : Graph) (id : String) : Nat :=
  (g.edges.filter fun e => e.target == id && g.declares e).length

/-- The targets of the links that leave a node, in the order of the links. -/
def successors (g : Graph) (id : String) : List String :=
  (g.edges.filter fun e => e.source == id && g.declares e).map (·.target)

/-- A waiting line with the number of unreleased links of each node. -/
structure Line where
  waiting : List String
  counts : List (String × Nat)
  deriving Repr

namespace Line

def count (l : Line) (id : String) : Nat := (l.counts.lookup id).getD 0

/-- Releases one link to a node, which joins the line when it was the last one. -/
def release (l : Line) (id : String) : Line :=
  let left := l.count id - 1
  let counts := l.counts.map fun p => if p.1 == id then (p.1, left) else p
  ⟨if left = 0 then l.waiting ++ [id] else l.waiting, counts⟩

end Line

/-- Places the nodes of the line one by one. Each round places one node or drops one, so the number
of nodes and links bounds the rounds. -/
def place (g : Graph) : (fuel : Nat) → Line → (placed : List String) → List String
  | 0, _, placed => placed
  | fuel + 1, line, placed =>
    match line.waiting with
    | [] => placed
    | id :: rest =>
      if id ∈ placed then place g fuel ⟨rest, line.counts⟩ placed
      else
        place g fuel ((g.successors id).foldl Line.release ⟨rest, line.counts⟩) (placed ++ [id])

/-- The nodes without incoming links, each with its place in the line. -/
def startLine (g : Graph) : Line where
  waiting := g.ids.filter fun id => g.inDegree id = 0
  counts := (distinct g.ids).map fun id => (id, g.inDegree id)

def placed (g : Graph) : List String :=
  place g (g.nodes.length + g.edges.length + 1) g.startLine []

/-- The declared nodes that are not among the placed ones, in the order of their declaration. -/
def unplaced (g : Graph) (placed : List String) : List String := g.ids.filter fun id => id ∉ placed

/-- The order of all nodes, or the nodes that a cycle keeps from being placed. -/
def order (g : Graph) : Except (List String) (List String) :=
  let placed := g.placed
  if placed.length < (distinct g.ids).length then .error (g.unplaced placed) else .ok placed

end DurableFlow.Graph
