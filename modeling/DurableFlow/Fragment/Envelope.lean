import DurableFlow.Fragment.Flow
import DurableFlow.Fragment.Http
import DurableFlow.Fragment.Inference
import DurableFlow.Fragment.Loop
import DurableFlow.Fragment.Rules
import DurableFlow.Fragment.Storage
import DurableFlow.Fragment.Timing
import DurableFlow.Fragment.Transform

/-!
The fragment of a node: its body inside an envelope that logs the start, the end and any error.
-/

namespace DurableFlow.Fragment

/-- The code of each node type. -/
def generators : List (String × (Node → Context → Build Body)) :=
  [("entry", entry), ("return", returning), ("http-request", httpRequest), ("kv-get", kvGet),
   ("kv-put", kvPut), ("d1-query", d1Query), ("transform", transform),
   ("conditional-router", router), ("conditional-inline", conditional), ("sleep", sleep),
   ("wait-event", waitEvent), ("for-each", forEach), ("validate", validate),
   ("mcp-tool-input", toolInput), ("mcp-tool-output", toolOutput), ("ai-gateway", aiGateway),
   ("workers-ai", workersAi)]

/-- The types that have code of their own, in order. -/
def generatedTypes : List String :=
  (generators.map (·.1)).mergeSort fun a b => decide (a ≤ b)

/-- The body of a node; a type without code of its own hands its input on. -/
def body (n : Node) (ctx : Context) : Build Body :=
  match generators.lookup n.type with
  | some generate => generate n ctx
  | none => return passthrough n ctx

def logEvent (event : String) (n : Node) (extra : String) : String :=
  "console.log(JSON.stringify(" ++ braced ("type: " ++ Json.quote event ++ ", nodeId: " ++
    Json.quote n.id ++ ", nodeName: " ++ Json.quote n.displayName ++ ", nodeType: " ++
    Json.quote n.type ++ ", timestamp: Date.now(), instanceId: event.instanceId" ++ extra) ++ "));"

/-- What the comments around a fragment say of its node. -/
def marker (n : Node) : String :=
  n.type ++ " (" ++ Text.singleLine n.displayName ++ ") [" ++ n.id ++ "]"

/-- Puts the envelope around the text of a body. -/
def wrap (n : Node) (code : String) : String :=
  Text.block
    ["// === NODE START: " ++ marker n ++ " ===",
     opens "try",
     Text.indent (logEvent "WF_NODE_START" n ""),
     Text.indent code,
     Text.indent (logEvent "WF_NODE_END" n ", success: true"),
     reopens "catch (error)",
     "  const errorMessage = error instanceof Error ? error.message : String(error);",
     Text.indent (logEvent "WF_NODE_ERROR" n ", success: false, error: errorMessage"),
     "  throw error;",
     closes,
     "// === NODE END: " ++ marker n ++ " ==="]

def ofNode (n : Node) (ctx : Context) : Build String := do
  let b ← body n ctx
  return wrap n (b.render ctx n)

end DurableFlow.Fragment
