import DurableFlow.Fragment.Body

/-!
The ends of a workflow: nodes that receive the payload and nodes that give the result.
-/

namespace DurableFlow.Fragment

/-- The names in a list of parameters, each given as an object with a name or as a text. -/
def parameterNames (v : Json) : Except Fault (List String) := do
  let items ← v.elementsIfGiven
  return items.filterMap fun item =>
    match item with
    | .obj ms =>
      match (Members.get? "name" ms).getD .null with
      | .str s => if s = "" then none else some s
      | _ => none
    | .str s => if s = "" then none else some s
    | _ => none

/-- Passes the payload on, or the named fields of it. -/
def payload (names : List String) : Body :=
  if names.isEmpty then .direct [] "event.payload" "event.payload"
  else
    let fields := names.map fun name =>
      Json.quote name ++ ": payload[" ++ Json.quote name ++ "]"
    .direct (Code.texts ["const payload = event.payload || " ++ emptyObject ++ ";"]) "event.payload"
      (braced (", ".intercalate fields))

def entry (n : Node) (_ : Context) : Build Body := do
  let names ← parameterNames (n.setting "params")
  return payload names

def toolInput (n : Node) (_ : Context) : Build Body := do
  let names ← parameterNames (n.setting "parameters")
  return payload names

/-- The members of a value given with its kind, if the value itself is given. -/
def source? (v : Json) : Option Members :=
  match v with
  | .obj ms =>
    if ((Members.get? "value" ms).getD (v.field "content")).isNull then none else some ms
  | _ => none

/-- The expression of the value that a workflow returns. -/
def returnValue (n : Node) (r : Resolver) : String :=
  match n.setting "value" with
  | .null =>
    match source? (n.setting "returnValue") with
    | some ms => r.source "value" ms
    | none => Json.quote "success"
  | v => r.value v

def returning (n : Node) (ctx : Context) : Build Body :=
  return .durable (Code.texts ["const result = " ++ returnValue n ctx.resolver ++ ";"])

/-- The content of a tool's answer in a format. -/
def toolContent (format : Json) : String :=
  let content (text : String) :=
    "content: [" ++ braced ("type: \"text\", text: " ++ text) ++ "]"
  match format with
  | .str "text" => braced (content "String(value)")
  | .str "object" => braced (content "JSON.stringify(value)" ++ ", structuredContent: value")
  | _ => braced (content "JSON.stringify(value)")

def toolOutput (n : Node) (ctx : Context) : Build Body :=
  let value :=
    match source? (n.setting "responseStructure") with
    | some ms => ctx.resolver.source "value" ms
    | none => "inputData"
  return .durable (Code.texts
    ["const value = " ++ value ++ ";",
     "const result = " ++ toolContent (n.settingD "format" (.str "json")) ++ ";"])

/-- A node of a type without code of its own hands its input on. -/
def passthrough (n : Node) (ctx : Context) : Body :=
  .direct
    (Code.texts ["// Unsupported node type " ++ Json.quote n.type ++ " (" ++ n.id ++
      "): passing input through"])
    (ctx.input n) (ctx.input n)

end DurableFlow.Fragment
