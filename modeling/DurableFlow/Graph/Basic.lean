import DurableFlow.Json.Basic

/-!
Workflow graphs: typed nodes and directed edges between them. Members that have no meaning here are
carried along.
-/

namespace DurableFlow

/-- Where a node stands on the canvas. -/
structure Position where
  x : Json
  y : Json
  deriving Repr, Inhabited

/-- What a node shows and how it is configured. -/
structure NodeData where
  label : Option String := none
  stepName : Option String := none
  config : Members := []
  extra : Members := []
  deriving Repr, Inhabited

/-- A unit of work. -/
structure Node where
  id : String
  type : String := ""
  position : Option Position := none
  data : NodeData := {}
  extra : Members := []
  deriving Repr, Inhabited

/-- A link from one node to another, possibly from a named exit of the first. -/
structure Edge where
  id : Option String := none
  source : String
  target : String
  handle : Option String := none
  extra : Members := []
  deriving Repr, Inhabited

structure Graph where
  id : String := "workflow"
  name : String := "workflow"
  nodes : List Node := []
  edges : List Edge := []
  extra : Members := []
  deriving Repr, Inhabited

def entryTypes : List String := ["entry", "mcp-tool-input"]

def returnTypes : List String := ["return", "mcp-tool-output"]

def toolInputType : String := "mcp-tool-input"

def toolOutputType : String := "mcp-tool-output"

/-- The first text that is not empty, or the last one. -/
def firstGiven : List String → String
  | [] => ""
  | [s] => s
  | s :: rest => if s = "" then firstGiven rest else s

namespace Node

def config (n : Node) : Members := n.data.config

/-- A member of the configuration; null when there is none. -/
def setting (n : Node) (key : String) : Json := (n.config.get? key).getD .null

/-- A member of the configuration, or a default when there is none. -/
def settingD (n : Node) (key : String) (default : Json) : Json :=
  (n.config.get? key).getD default

/-- The name shown in logs: the label, else the type, else the id. -/
def displayName (n : Node) : String := firstGiven [n.data.label.getD "", n.type, n.id]

def isEntry (n : Node) : Bool := n.type ∈ entryTypes

def isReturn (n : Node) : Bool := n.type ∈ returnTypes

end Node

namespace Graph

def node? (g : Graph) (id : String) : Option Node := g.nodes.find? (fun n => n.id == id)

def incoming (g : Graph) (id : String) : List Edge := g.edges.filter (fun e => e.target == id)

def outgoing (g : Graph) (id : String) : List Edge := g.edges.filter (fun e => e.source == id)

/-- The ids of the nodes in the order of their declaration, repetitions included. -/
def ids (g : Graph) : List String := g.nodes.map (·.id)

/-- The first node that receives tool calls. A graph that has one is also served as a tool. -/
def toolInput? (g : Graph) : Option Node := g.nodes.find? (fun n => n.type == toolInputType)

/-- Whether both ends of an edge are declared. Such an edge is a link; the others carry no order. -/
def declares (g : Graph) (e : Edge) : Bool := g.ids.contains e.source && g.ids.contains e.target

end Graph

end DurableFlow
