import DurableFlow.Catalog.Basic
import DurableFlow.Graph.Cycle
import DurableFlow.Graph.Decode
import DurableFlow.Graph.Document

/-!
Reports on graphs. All checks are made, and what they find is gathered in one report: errors, which
keep a graph from being compiled, and warnings, which do not.
-/

namespace DurableFlow

structure Report where
  errors : List String := []
  warnings : List String := []
  hasCycle : Bool := false
  entry : Option String := none
  graph : Option Graph := none
  deriving Repr

namespace Report

def isValid (r : Report) : Bool := r.errors.isEmpty

/-- The texts that occur again after their first place, each once, in the order of their second
places. -/
def repeated (seen reported : List String) : List String → List String
  | [] => []
  | x :: xs =>
    if x ∈ seen && x ∉ reported then x :: repeated seen (x :: reported) xs
    else repeated (x :: seen) reported xs

def idErrors (g : Graph) : List String :=
  (repeated [] [] g.ids).map fun id => "Duplicate node id '" ++ id ++ "'"

def isBlankText (s : String) : Bool := s.toList.all Text.isBlank

def typeErrors (g : Graph) : List String :=
  (g.nodes.filter fun n => isBlankText n.type).map fun n => "Node '" ++ n.id ++ "' is missing a type"

def edgeId (e : Edge) : String :=
  let given := e.id.getD ""
  if given = "" then "e-" ++ e.source ++ "-" ++ e.target else given

def edgeErrors (g : Graph) (seen : List String) (e : Edge) : List String :=
  let id := edgeId e
  (if id ∈ seen then ["Duplicate edge id '" ++ id ++ "'"] else []) ++
  (if e.source ∈ g.ids then []
   else ["Edge '" ++ id ++ "' references non-existent source node '" ++ e.source ++ "'"]) ++
  (if e.target ∈ g.ids then []
   else ["Edge '" ++ id ++ "' references non-existent target node '" ++ e.target ++ "'"])

def edgeWarnings (index : Nat) (e : Edge) : List String :=
  let id := edgeId e
  (if e.id.getD "" = "" then
    ["Edge " ++ toString index ++ " (" ++ e.source ++ " -> " ++ e.target ++ ") has no id; assigned '" ++
      id ++ "'"]
   else []) ++
  (if e.source = e.target then
    ["Edge '" ++ id ++ "' is a self-loop on node '" ++ e.source ++ "'"]
   else [])

def edgeErrorsFrom (g : Graph) (seen : List String) : List Edge → List String
  | [] => []
  | e :: es => edgeErrors g seen e ++ edgeErrorsFrom g (edgeId e :: seen) es

def allEdgeWarnings (g : Graph) : List String :=
  g.edges.zipIdx.flatMap fun p => edgeWarnings p.2 p.1

/-- What a catalog says of a node: the errors of its configuration, or that its type is unknown. -/
def nodeFindings (validator : Schema.Validator) (c : Catalog) (n : Node) :
    Except Fault (List String × List String) :=
  if n.type = "" then .ok ([], [])
  else
    match c.get? n.type with
    | none =>
      .ok ([], ["Node '" ++ n.id ++ "' has unknown type '" ++ n.type ++
        "'; it will compile to a passthrough"])
    | some d => do
      let problems ← Document.configProblemsBy validator (.obj n.config) (.obj d.configSchema)
      return (problems.map fun p => "Node '" ++ n.id ++ "' (" ++ n.type ++ ") " ++ p, [])

def catalogFindings (validator : Schema.Validator) (c : Catalog) :
    List Node → Except Fault (List String × List String)
  | [] => .ok ([], [])
  | n :: ns => do
    let here ← nodeFindings validator c n
    let rest ← catalogFindings validator c ns
    return (here.1 ++ rest.1, here.2 ++ rest.2)

/-- The entry of a graph, with errors and warnings about it. -/
structure EntryFinding where
  entry : Option String
  errors : List String
  warnings : List String

/-- The node at which a run starts: the one that is asked for, else the first of an entry type. -/
def findEntry (g : Graph) (asked : Option String) : EntryFinding :=
  let entries := (g.nodes.filter Node.isEntry).map (·.id)
  let warnings :=
    if 1 < entries.length then
      ["Workflow has " ++ toString entries.length ++ " entry nodes (" ++ ", ".intercalate entries ++
        "); expected exactly one"]
    else []
  match asked.getD "" with
  | "" =>
    match entries with
    | [] => ⟨none, ["Workflow must have an entry node"], warnings⟩
    | id :: _ => ⟨some id, [], warnings⟩
  | id =>
    if (g.node? id).isSome then ⟨some id, [], warnings⟩
    else ⟨none, ["Entry node '" ++ id ++ "' does not exist"], warnings⟩

/-- The report on a graph, with something that checks configurations against schemas. Without a
catalog, configurations are not checked. -/
def ofGraphBy (validator : Schema.Validator) (c : Option Catalog) (asked : Option String)
    (g : Graph) : Except Fault Report := do
  let found ←
    match c with
    | some c => catalogFindings validator c g.nodes
    | none => .ok ([], [])
  let entry := findEntry g asked
  let cyclic := g.hasCycle
  return {
    errors := idErrors g ++ typeErrors g ++ edgeErrorsFrom g [] g.edges ++ found.1 ++ entry.errors
    warnings := allEdgeWarnings g ++ found.2 ++
      (if cyclic then ["Workflow graph contains a cycle"] else []) ++ entry.warnings ++
      (if g.nodes.any Node.isReturn then []
       else ["Workflow has no return node; deployed runs will return only step results"])
    hasCycle := cyclic
    entry := entry.entry
    graph := some g }

def ofGraph : Option Catalog → Option String → Graph → Except Fault Report :=
  ofGraphBy Schema.validate

/-- A report of errors in the structure of a document. -/
def ofStructure (problems : List String) : Report :=
  { errors := problems.map fun p => "Structure: " ++ p }

def ofDocument (c : Option Catalog) (asked : Option String) (v : Json) : Except Fault Report :=
  match v with
  | .obj _ =>
    match Document.problems v with
    | [] =>
      match Graph.read v with
      | .ok g => ofGraph c asked g
      | .issues found => .ok (ofStructure [Issue.summary Graph.recordName found])
      | .stopped => .error .wrongType
    | problems => .ok (ofStructure problems)
  | _ => .error .notAnObject

def toJson (r : Report) : Json :=
  .obj [("valid", .bool r.isValid), ("errors", Json.ofStrings r.errors),
    ("warnings", Json.ofStrings r.warnings), ("hasCycle", .bool r.hasCycle),
    ("entryNodeId", NodeData.ofOption r.entry)]

end Report

end DurableFlow
