import DurableFlow.Fragment.Body
import DurableFlow.Json.Reader
import DurableFlow.Text.Case

/-!
Nodes that call an HTTP service. An answer that is not a success ends the step with an error.
-/

namespace DurableFlow.Fragment

/-- The headers as pairs: members of an object, or a list of objects with a key and a value. -/
def headerPairs (v : Json) : Except Fault (List (String × Json)) :=
  match v with
  | .obj ms => .ok ms
  | v => do
    let items ← v.elementsIfGiven
    return items.filterMap fun item =>
      match item with
      | .obj ms =>
        let key := (Members.get? "key" ms).getD .null
        if key.isGiven then some (key.plainText, (Members.get? "value" ms).getD (.str "")) else none
      | _ => none

/-- A text that is itself JSON stands for what it says. -/
def jsonContent (v : Json) : Except Fault Json :=
  match v with
  | .str s =>
    if Template.hasRefs s then .ok v
    else
      match Json.parse s with
      | .ok inner => .ok inner
      | .error (.malformed _) => .ok v
      | .error (.limit f) => .error f
  | v => .ok v

/-- The body of a request, with the type of its content. -/
def requestBody? (v : Json) (r : Resolver) : Except Fault (Option (String × String)) :=
  match v with
  | .obj ms =>
    match (Members.get? "type" ms).getD (.str "none"), (Members.get? "content" ms).getD .null with
    | .str "none", _ => .ok none
    | _, .null => .ok none
    | .str "json", content => do
      let inner ← jsonContent content
      return some ("JSON.stringify(" ++ r.value inner ++ ")", "application/json")
    | .str "form", content => .ok (some ("new URLSearchParams(" ++ r.value content ++ ")", ""))
    | _, content => .ok (some ("String(" ++ r.value content ++ ")", "text/plain"))
  | _ => .ok none

/-- The methods whose requests have no body. -/
def bodylessMethods : List String := ["GET", "HEAD"]

def httpRequest (n : Node) (ctx : Context) : Build Body := do
  let method := Text.upper ((n.setting "method").orElse (.str "GET")).plainText
  let timeout ← ((n.setting "timeout").orElse (.int ctx.settings.httpTimeoutMs)).toInt
  let given ← headerPairs (n.setting "headers")
  let body ←
    if method ∈ bodylessMethods then pure none
    else (requestBody? (n.setting "body") ctx.resolver : Except Fault (Option (String × String)))
  let headers : List (String × Json) :=
    match body with
    | some (_, contentType) =>
      if contentType = "" || given.any (fun h => Text.lower h.1 == "content-type") then given
      else given ++ [("Content-Type", .str contentType)]
    | none => given
  let entries := headers.map fun h => Json.quote h.1 ++ ": " ++ ctx.resolver.value h.2
  let headerObject :=
    if entries.isEmpty then emptyObject else braced (", ".intercalate entries)
  let lines :=
    ["const url = " ++ ctx.resolver.value (n.settingD "url" (.str "")) ++ ";",
     "const headers = " ++ headerObject ++ ";",
     "const init = " ++ braced ("method: " ++ Json.quote method ++
       ", headers, signal: AbortSignal.timeout(" ++ toString timeout ++ ")") ++ ";"] ++
    (match body with
      | some (expression, _) => ["init.body = " ++ expression ++ ";"]
      | none => []) ++
    ["const response = await fetch(url, init);",
     opens "if (!response.ok)",
     "  throw new Error(`HTTP $\x7bresponse.status\x7d: $\x7bresponse.statusText\x7d`);",
     closes,
     "const contentType = response.headers.get(\"content-type\") || \"\";",
     "const body = contentType.includes(\"application/json\") ? await response.json() : " ++
       "await response.text();",
     "const result = " ++ braced ("status: response.status, " ++
       "headers: Object.fromEntries(response.headers.entries()), body") ++ ";"]
  return .durable (Code.texts lines)

end DurableFlow.Fragment
