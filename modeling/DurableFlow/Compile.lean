import DurableFlow.Fragment.Envelope
import DurableFlow.Graph.Report
import DurableFlow.Module.Descriptor
import DurableFlow.Module.Source

/-!
Compiling graphs. A graph is checked, its nodes are put in order, a fragment is made for each of them,
the resources are collected, and everything is put together in an artifact. A graph with errors is
refused, and so is a graph with a cycle unless the policy allows it.
-/

namespace DurableFlow

open Checked

/-- What may be chosen for one compilation. -/
structure CompileOptions where
  deploymentName : Option String := none
  className : Option String := none
  entryNodeId : Option String := none
  cyclePolicy : Option CyclePolicy := none
  deriving DecidableEq, Repr, Inhabited

namespace CompileOptions

def read (v : Json) : Checked CompileOptions :=
  record "CompileOptions" (fun ms =>
    CompileOptions.mk <$>
      fieldD ms ["deploymentName", "deployment_name"] (optional string) none <*>
      fieldD ms ["className", "class_name"] (optional string) none <*>
      fieldD ms ["entryNodeId", "entry_node_id"] (optional string) none <*>
      fieldD ms ["cyclePolicy", "cycle_policy"] (optional CyclePolicy.read) none) v

end CompileOptions

/-- Everything that one compilation produces. -/
structure Artifact where
  moduleSource : String
  className : String
  bindings : List Binding
  descriptor : Members
  manifest : Option Tool.Manifest
  warnings : List String
  order : List String
  stepNames : List (String × String)

namespace Artifact

/-- The artifact as an object, with the names of tool arguments written by `key`. -/
def toJson (a : Artifact) (key : Json → String) : Json :=
  .obj ([("moduleSource", .str a.moduleSource), ("entrypointClassName", .str a.className),
    ("bindings", .arr (a.bindings.map Binding.toJson)),
    ("deploymentDescriptor", .obj a.descriptor)] ++
    (a.manifest.map fun m => ("toolManifest", m.toJson key)).toList ++
    [("warnings", Json.ofStrings a.warnings), ("executionOrder", Json.ofStrings a.order),
     ("stepNames", .obj (a.stepNames.map fun p => (p.1, .str p.2)))])

end Artifact

/-- A graph as it is handed in. -/
inductive GraphInput where
  | graph (g : Graph)
  | document (v : Json)
  | text (s : String)

namespace Compile

def report (c : Option Catalog) (asked : Option String) (input : GraphInput) :
    Except CompileError Report :=
  match input with
  | .graph g => (Report.ofGraph c asked g).mapError .fault
  | .document v => (Report.ofDocument c asked v).mapError .fault
  | .text s =>
    match Json.parse s with
    | .ok v => (Report.ofDocument c asked v).mapError .fault
    | .error e => .error (.ofParseError e)

/-- The order of the nodes; a graph with a cycle keeps the order of declaration, with a notice. -/
def order (g : Graph) : Outcome CompileError (List String) :=
  match g.order with
  | .ok ids => return ids
  | .error stuck => do
    Outcome.warn ("Cycle involving " ++ ", ".intercalate stuck ++ "; using declaration order")
    return Graph.distinct g.ids

/-- The fragment of one node. A fault in its configuration is an error of the compilation, except
those that no configuration was expected to have. -/
def fragment (ctx : Context) (n : Node) : Outcome CompileError String :=
  (Fragment.ofNode n ctx).mapError fun f =>
    if f.isReported then .generation n.id n.type f else .fault f

def fragments (ctx : Context) : List String → Outcome CompileError (List String)
  | [] => return []
  | id :: ids =>
    match ctx.graph.node? id with
    | none => fragments ctx ids
    | some n => do
      let here ← fragment ctx n
      let rest ← fragments ctx ids
      return here :: rest

def outputNode? (g : Graph) : Option Node :=
  (g.nodes.find? fun n => n.type == toolOutputType).orElse fun _ => g.nodes.find? Node.isReturn

/-- The name of a workflow: the one asked for, else the name of the graph, else its id. -/
def workflowName (o : CompileOptions) (g : Graph) : String :=
  firstGiven [o.deploymentName.getD "", g.name, g.id]

def assemble (ctx : Context) (o : CompileOptions) (warnings order fragments : List String)
    (collected : List Binding) : Except Fault Artifact := do
  let g := ctx.graph
  let workflow := workflowName o g
  let className := firstGiven [o.className.getD "", Module.className workflow]
  let tool := g.toolInput?
  let manifest ←
    match tool with
    | some n => (Tool.manifest n workflow).map some
    | none => .ok none
  let outputStep :=
    match tool with
    | some _ => NodeData.ofOption ((outputNode? g).bind fun n => ctx.stepNames.lookup n.id)
    | none => .null
  let bindings := collected ++
    (match tool with
      | some n => Tool.bindings className n
      | none => [])
  let source ← Module.source fragments className workflow tool outputStep
  return {
    moduleSource := source
    className := className
    bindings := bindings
    descriptor := Module.descriptor workflow className bindings ctx.settings tool.isSome
    manifest := manifest
    warnings := warnings
    order := order
    stepNames := ctx.stepNames }

/-- The warning of a graph that is compiled in spite of a cycle. -/
def cycleWarning : String := "Compiled in declaration order because the graph has a cycle"

def compileGraph (c : Catalog) (s : CompilerSettings) (o : CompileOptions) (r : Report) (g : Graph) :
    Outcome CompileError Artifact := do
  let ids ← order g
  let ctx := Context.ofGraph g c s
  let made ← fragments ctx ids
  let collected ← (Binding.collect c s g).mapError CompileError.fault
  let warnings := r.warnings ++ (if r.hasCycle then [cycleWarning] else [])
  let artifact ← (assemble ctx o warnings ids made collected).mapError CompileError.fault
  Outcome.inform ("Compiled " ++ artifact.className ++ " with " ++
    toString artifact.bindings.length ++ " binding(s)")
  return artifact

/-- What is done about a report: the graph is refused, or it is compiled. -/
def decide (c : Catalog) (s : CompilerSettings) (o : CompileOptions) (r : Report) :
    Outcome CompileError Artifact := do
  match r.graph, r.isValid with
  | some g, true =>
    if r.hasCycle && (o.cyclePolicy.getD s.cyclePolicy) = .error then
      Outcome.inform "Graph rejected: cycle under strict policy"
      Outcome.fail (.cycle (PhaseError.cycle).reason)
    else compileGraph c s o r g
  | _, _ =>
    Outcome.inform ("Graph rejected with " ++ toString r.errors.length ++ " error(s)")
    Outcome.fail (.invalid ⟨r.errors, r.warnings⟩)

end Compile

def compile (c : Catalog) (s : CompilerSettings) (o : CompileOptions) (input : GraphInput) :
    Outcome CompileError Artifact :=
  match input with
  | .text t =>
    match Json.parse t with
    | .error e => Outcome.fail (.ofParseError e)
    | .ok v => go (.document v)
  | other => go other
where
  go (input : GraphInput) : Outcome CompileError Artifact := do
    Outcome.inform "Starting compilation"
    let r ← Compile.report (some c) o.entryNodeId input
    Compile.decide c s o r

end DurableFlow
