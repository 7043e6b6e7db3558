import DurableFlow.Catalog.Basic

/-!
The built-in catalog.
-/

namespace DurableFlow.Builtin

def kvBinding : String := "KV"

def d1Binding : String := "DB"

def aiBinding : String := "AI"

def aiModel : String := "@cf/meta/llama-3.1-8b-instruct"

/-- A schema for one type, with further rules behind it. -/
def typed (name : String) (rules : Members := []) : Json := .obj (("type", .str name) :: rules)

def text (rules : Members := []) : Json := typed "string" rules

def filledText : Json := text [("minLength", .int 1)]

def anyObject : Json := typed "object"

def flag (rules : Members := []) : Json := typed "boolean" rules

def choice (choices : List String) (rules : Members := []) : Json :=
  text (("enum", Json.ofStrings choices) :: rules)

def wholeFrom (least : Int) (rules : Members := []) : Json :=
  typed "integer" (("minimum", .int least) :: rules)

def default (v : Json) : String × Json := ("default", v)

def object (properties : Members) (required : List String := []) : Members :=
  [("type", .str "object"), ("properties", .obj properties)] ++
    (if required.isEmpty then [] else [("required", Json.ofStrings required)])

def parameterList : Json :=
  typed "array"
    [("items", .obj (object
      [("name", filledText),
       ("type", choice ["string", "number", "boolean", "object", "array"]),
       ("required", flag),
       ("description", text)] ["name"]))]

/-- A value with the way in which it is meant. -/
def valueSource : Json :=
  .obj (object [("type", choice ["static", "literal", "variable", "expression"])] ["type"])

def nameText (default : String) : Json :=
  text [("pattern", .str "^[A-Za-z_][A-Za-z0-9_]*$"), ("default", .str default)]

def kvRequirement : Requirement where
  kind := "kv"
  name := kvBinding
  description := "Key-value namespace binding"
  configField := some "namespace"

def aiRequirement : Requirement where
  kind := "ai"
  name := aiBinding
  description := "Workers AI binding"

def cacheRequirement : Requirement where
  kind := "kv"
  name := kvBinding
  required := false
  description := "Response cache namespace"
  configField := some "cacheNamespace"

def entry : Definition where
  type := "entry"
  name := "Entry"
  description := "Workflow entry point receiving the event payload"
  category := "flow"
  configSchema := object [("params", parameterList)]
  presetOutput := some [("payload", .obj [])]

def returning : Definition where
  type := "return"
  name := "Return"
  description := "Return a value from the workflow"
  category := "flow"
  configSchema := object [("value", .obj []), ("returnValue", valueSource)]
  presetOutput := some [("result", .str "success")]

def httpRequest : Definition where
  type := "http-request"
  name := "HTTP Request"
  description := "Call an external HTTP API"
  category := "http"
  configSchema := object
    [("url", filledText),
     ("method", choice ["GET", "POST", "PUT", "PATCH", "DELETE", "HEAD", "OPTIONS"]
       [default (.str "GET")]),
     ("headers", .obj [("type", Json.ofStrings ["array", "object"])]),
     ("body", .obj (object [("type", choice ["none", "json", "text", "form"])])),
     ("timeout", wholeFrom 1)] ["url"]
  examples := [[("name", .str "Fetch user"),
    ("config", .obj [("url", .str "https://api.example.com/users/1")])]]
  presetOutput := some [("status", .int 200), ("headers", .obj []), ("body", .obj [])]

def kvGet : Definition where
  type := "kv-get"
  name := "KV Get"
  description := "Read a value from a key-value namespace"
  category := "storage"
  configSchema := object
    [("namespace", text [default (.str kvBinding)]),
     ("key", filledText),
     ("type", choice ["text", "json", "arrayBuffer", "stream"] [default (.str "text")])] ["key"]
  bindings := [kvRequirement]
  presetOutput := some [("value", .null), ("exists", .bool false), ("metadata", .null)]

def kvPut : Definition where
  type := "kv-put"
  name := "KV Put"
  description := "Write a value to a key-value namespace"
  category := "storage"
  configSchema := object
    [("namespace", text [default (.str kvBinding)]),
     ("key", filledText),
     ("value", valueSource),
     ("options", .obj (object
       [("expirationTtl", wholeFrom 60), ("expiration", typed "integer"),
        ("metadata", anyObject)]))] ["key", "value"]
  bindings := [kvRequirement]
  examples := [[("name", .str "Save user"),
    ("config", .obj [("namespace", .str "USERS_KV"), ("key", .str "user-123"),
      ("value", .obj [("type", .str "static"), ("content", .obj [])])])]]
  presetOutput := some [("success", .bool true), ("key", .str "user-123")]

def d1Query : Definition where
  type := "d1-query"
  name := "D1 Query"
  description := "Run a parameterized SQL statement against a D1 database"
  category := "storage"
  configSchema := object
    [("database", text [default (.str d1Binding)]),
     ("query", filledText),
     ("params", typed "array" [("items", .obj (object [("value", .obj [])]))]),
     ("returnType", choice ["all", "first", "run"] [default (.str "all")])] ["query"]
  bindings := [{
    kind := "d1"
    name := d1Binding
    description := "D1 database binding"
    configField := some "database" }]
  presetOutput := some [("results", .arr []), ("meta", .obj []), ("success", .bool true)]

def transform : Definition where
  type := "transform"
  name := "Transform"
  description := "Reshape data with user-supplied JavaScript"
  category := "utils"
  configSchema := object [("code", text)]

def conditionalRouter : Definition where
  type := "conditional-router"
  name := "Conditional Router"
  description := "Choose a named branch from a comparison or a set of cases"
  category := "flow"
  configSchema := object
    [("condition", anyObject),
     ("expression", text),
     ("conditionPath", text),
     ("cases", typed "array" [("items", .obj (object
       [("case", filledText), ("value", .obj []), ("isDefault", flag)] ["case"]))])]
  presetOutput := some [("branch", .str "true"), ("result", .bool true)]

def conditionalInline : Definition where
  type := "conditional-inline"
  name := "Conditional"
  description := "Evaluate a boolean condition"
  category := "flow"
  configSchema := object [("condition", anyObject), ("expression", text)]
  presetOutput := some [("branch", .str "true"), ("result", .bool true)]

def sleep : Definition where
  type := "sleep"
  name := "Sleep"
  description := "Pause the workflow for a duration or until a timestamp"
  category := "utils"
  configSchema := object
    [("duration", .obj [("oneOf", .arr
      [typed "number" [("minimum", .int 0)],
       .obj (object
        [("type", choice ["relative", "absolute"]),
         ("value", typed "number" [("minimum", .int 0)]),
         ("unit", text),
         ("timestamp", .obj [("type", Json.ofStrings ["string", "number"])])])])])]

def waitEvent : Definition where
  type := "wait-event"
  name := "Wait for Event"
  description := "Pause the workflow until an external event (approval, webhook) arrives"
  category := "utils"
  configSchema := object
    [("eventType", filledText),
     ("timeout", .obj (object
       [("value", typed "number" [("exclusiveMinimum", .int 0)]),
        ("unit", choice ["seconds", "minutes", "hours", "days"])] ["value", "unit"])),
     ("timeoutBehavior", choice ["error", "continue"] [default (.str "error")])] ["eventType"]
  examples := [[("name", .str "Wait for approval"),
    ("config", .obj [("eventType", .str "approval"),
      ("timeout", .obj [("value", .int 24), ("unit", .str "hours")])])]]
  presetOutput := some [("event", .null), ("timedOut", .bool false)]

def forEach : Definition where
  type := "for-each"
  name := "For Each"
  description := "Iterate over an array, optionally mapping each item through an expression"
  category := "flow"
  configSchema := object
    [("array", text [("minLength", .int 1), default (.str "items")]),
     ("itemName", nameText "item"),
     ("indexName", nameText "index"),
     ("expression", text),
     ("maxIterations", wholeFrom 1 [default (.int 1000)]),
     ("parallel", flag [default (.bool false)]),
     ("continueOnError", flag [default (.bool true)])]
  examples := [[("name", .str "Process users"),
    ("config", .obj [("array", .str "users"), ("itemName", .str "user"),
      ("expression", .str "user.email"), ("maxIterations", .int 100)])]]
  presetOutput := some
    [("items", .arr []), ("results", .arr []), ("count", .int 0), ("errors", .arr [])]

def validate : Definition where
  type := "validate"
  name := "Validate"
  description := "Check the entry payload against declarative rules"
  category := "utils"
  configSchema := object
    [("rules", typed "array" [("items", .obj (object
       [("field", text), ("type", text), ("message", text)] ["type"]))]),
     ("onFailure", choice ["error", "continue"] [default (.str "error")])]
  presetOutput := some [("valid", .bool true), ("errors", .arr [])]

def toolInput : Definition where
  type := "mcp-tool-input"
  name := "MCP Tool Input"
  description := "Receive tool-call arguments when the workflow is exposed as a tool"
  category := "ai"
  configSchema := object
    [("toolName", text [("pattern", .str "^[a-zA-Z0-9_-]+$")]),
     ("description", text),
     ("parameters", parameterList)]

def toolOutput : Definition where
  type := "mcp-tool-output"
  name := "MCP Tool Output"
  description := "Shape the workflow result as tool-call content"
  category := "ai"
  configSchema := object
    [("format", choice ["json", "text", "object"] [default (.str "json")]),
     ("responseStructure", valueSource)]

/-- The settings that both model nodes share. -/
def inferenceProperties : Members :=
  [("prompt", text),
   ("model", text [default (.str aiModel)]),
   ("temperature", typed "number" [("minimum", .int 0), ("maximum", .int 2)]),
   ("maxTokens", wholeFrom 1),
   ("cacheTTL", wholeFrom 0),
   ("cacheNamespace", text [default (.str kvBinding)])]

def aiGateway : Definition where
  type := "ai-gateway"
  name := "AI Gateway"
  description := "Chat completion through the AI binding with response caching"
  category := "ai"
  configSchema := object (inferenceProperties ++ [("gatewayId", text)])
  bindings := [aiRequirement, cacheRequirement]
  presetOutput := some [("text", .str ""), ("usage", .obj [])]

def workersAi : Definition where
  type := "workers-ai"
  name := "Workers AI"
  description := "Run a text-generation model through the AI binding"
  category := "ai"
  configSchema := object inferenceProperties
  bindings := [aiRequirement, cacheRequirement]
  presetOutput := some [("text", .str "")]

end DurableFlow.Builtin

namespace DurableFlow

def Catalog.builtin : Catalog :=
  ⟨[Builtin.entry, Builtin.returning, Builtin.httpRequest, Builtin.kvGet, Builtin.kvPut,
    Builtin.d1Query, Builtin.transform, Builtin.conditionalRouter, Builtin.conditionalInline,
    Builtin.sleep, Builtin.waitEvent, Builtin.forEach, Builtin.validate, Builtin.toolInput,
    Builtin.toolOutput, Builtin.aiGateway, Builtin.workersAi]⟩

end DurableFlow
