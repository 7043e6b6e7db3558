import DurableFlow.Json.Reader
import DurableFlow.Outcome
import DurableFlow.Record.Issue

/-!
The errors of a compilation and their texts.
-/

namespace DurableFlow

/-- A graph that breaks the rules for graphs: all errors, and the warnings found beside them. -/
structure InvalidGraph where
  errors : List String
  warnings : List String := []
  deriving DecidableEq, Repr

def InvalidGraph.message (e : InvalidGraph) : String :=
  "\n".intercalate (("Workflow graph is invalid (" ++ toString e.errors.length ++ " error(s)):") ::
    e.errors.map fun error => "  - " ++ error)

/-- A compilation that failed in one of its phases, possibly at a node. -/
structure PhaseError where
  reason : String
  phase : String := "unknown"
  nodeId : Option String := none
  nodeType : Option String := none
  suggestion : Option String := none
  deriving DecidableEq, Repr

namespace PhaseError

def detail (label : String) : Option String → List String
  | none => []
  | some s => if s = "" then [] else [label ++ ": " ++ s]

def message (e : PhaseError) : String :=
  "\n".intercalate (["compiler: " ++ e.reason] ++
    (if e.phase = "unknown" then [] else ["Phase: " ++ e.phase]) ++
    detail "Node ID" e.nodeId ++ detail "Node Type" e.nodeType ++
    detail "Suggestion" e.suggestion)

/-- A graph with a cycle, where cycles are not allowed. -/
def cycle (reason : String := "Workflow graph contains a cycle") : PhaseError where
  reason := reason
  phase := "sequencing"
  suggestion := some "Remove the edge that closes the cycle, or compile with --allow-cycles"

/-- Nodes that cannot be placed because of a cycle. -/
def stuck (ids : List String) : PhaseError :=
  cycle ("Circular dependency detected involving nodes: " ++ ", ".intercalate ids)

/-- A node whose configuration cannot be turned into code. -/
def generation (nodeId nodeType cause : String) : PhaseError where
  reason := "Failed to generate code: " ++ cause
  phase := "code_generation"
  nodeId := some nodeId
  nodeType := some nodeType
  suggestion := some "Check the node's config values against its schema"

end PhaseError

/-- A structural error of a document, with its place and advice. -/
structure StructureError where
  text : String
  path : String := ""
  suggestion : String := ""
  deriving DecidableEq, Repr

def StructureError.message (e : StructureError) : String :=
  "Validation error" ++ (if e.path = "" then "" else " at " ++ e.path) ++ ": " ++ e.text ++
    (if e.suggestion = "" then "" else "\n" ++ e.suggestion)

/-- Why a graph was not compiled. -/
inductive CompileError where
  | notJson (e : Json.ReadError)
  | invalid (e : InvalidGraph)
  | cycle (reason : String)
  | generation (nodeId nodeType : String) (cause : Fault)
  | fault (f : Fault)
  deriving Repr

/-- The error for a graph whose text is not read. -/
def CompileError.ofParseError : Json.ParseError → CompileError
  | .malformed e => .notJson e
  | .limit f => .fault f

/-- Whether a fault in the configuration of a node is reported as an error of the compilation. -/
def Fault.isReported : Fault → Bool
  | .wrongType => true
  | .badValue _ => true
  | _ => false

end DurableFlow
