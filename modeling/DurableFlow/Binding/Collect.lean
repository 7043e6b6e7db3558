import DurableFlow.Binding.Basic
import DurableFlow.Text.Case

/-!
Collecting the resources of a graph. Requirements with the same kind and name are merged into one
binding, which stands where the first of them was met and lists all nodes that use it.
-/

namespace DurableFlow.Binding

/-- One use of a resource by a node. -/
structure Use where
  node : Node
  requirement : Requirement
  name : String

/-- The uses of a node, in the order of its requirements. -/
def usesOf (c : Catalog) (s : CompilerSettings) (n : Node) :
    List Requirement → Except Fault (List Use)
  | [] => .ok []
  | r :: rs => do
    let name ← n.requirementName r c s
    let rest ← usesOf c s n rs
    return (name.map fun name => ⟨n, r, name⟩).toList ++ rest

/-- The uses of some nodes, in order; nodes of types without a definition have none. -/
def uses (c : Catalog) (s : CompilerSettings) : List Node → Except Fault (List Use)
  | [] => .ok []
  | n :: ns => do
    let here ←
      match c.get? n.type with
      | some d => usesOf c s n d.bindings
      | none => .ok []
    let rest ← uses c s ns
    return here ++ rest

def Use.usage (u : Use) : Usage := ⟨u.node.id, u.node.type⟩

/-- The binding of a use that is the first of its kind and name. -/
def Use.binding (u : Use) : Binding where
  name := u.name
  kind := u.requirement.kind
  required := u.requirement.required
  description := if u.requirement.description = "" then none else some u.requirement.description
  usages := [u.usage]

/-- Adds a use to the binding of its kind and name, or appends a new binding. -/
def add (u : Use) : List Binding → List Binding
  | [] => [u.binding]
  | b :: rest =>
    if b.kind = u.requirement.kind && b.name = u.name then
      { b with
        required := b.required || u.requirement.required
        usages := b.usages ++ [u.usage] } :: rest
    else b :: add u rest

def collect (c : Catalog) (s : CompilerSettings) (g : Graph) : Except Fault (List Binding) := do
  let found ← uses c s g.nodes
  return found.foldl (fun bs u => add u bs) []

/-- A member of the descriptor for a list of declarations, when there are any. -/
def declared (key : String) (declarations : List Json) : Members :=
  if declarations.isEmpty then [] else [(key, .arr declarations)]

def ofKind (kind : String) (bs : List Binding) : List Binding := bs.filter (fun b => b.kind = kind)

def dashed (s : String) : String :=
  String.ofList (s.toList.map fun c => if c = '_' then '-' else c)

/-- The members of a deployment descriptor that declare resources. -/
def sections (bs : List Binding) : Members :=
  declared "kv_namespaces" ((ofKind "kv" bs).map fun b =>
    .obj [("binding", .str b.name), ("id", .str ""), ("preview_id", .str "")]) ++
  declared "d1_databases" ((ofKind "d1" bs).map fun b =>
    .obj [("binding", .str b.name), ("database_name", .str (Text.lower b.name)),
      ("database_id", .str "")]) ++
  (if (ofKind "ai" bs).isEmpty then []
   else [("ai", .obj [("binding", .str Builtin.aiBinding)])]) ++
  declared "r2_buckets" ((ofKind "r2" bs).map fun b =>
    .obj [("binding", .str b.name), ("bucket_name", .str (dashed (Text.lower b.name)))])

end DurableFlow.Binding
