import DurableFlow.Fragment.Body

/-!
Nodes that ask a language model, with an optional cache for the answers.
-/

namespace DurableFlow.Fragment

/-- The options of a call, in the order written. -/
def inferenceOptions (n : Node) (temperature : Json) : Except Fault (List String) := do
  let chosen := n.settingD "temperature" temperature
  let first := if chosen.isNull then [] else ["temperature: " ++ chosen.compact]
  match n.setting "maxTokens" with
  | .null => return first
  | v =>
    let tokens ← v.toInt
    return first ++ ["max_tokens: " ++ toString tokens]

/-- The lines that look an answer up in the cache, and those that store it. -/
def cacheLines (n : Node) (ctx : Context) : Except Fault (List Code × List Code) := do
  let cache ← n.cacheNamespace ctx.catalog ctx.settings
  match cache with
  | none => return ([], [])
  | some name =>
    let ttl ← n.cacheTtl ctx.settings
    let before : List Code :=
      Code.texts ["const digest = await crypto.subtle.digest(\"SHA-256\", " ++
         "new TextEncoder().encode(model + \":\" + prompt));",
       "const cacheKey = \"ai:\" + Array.from(new Uint8Array(digest), " ++
         "(b) => b.toString(16).padStart(2, \"0\")).join(\"\");"] ++
      [[.text "const cached = await ", .env "kv" name, .text ".get(cacheKey, \"json\");"]] ++
      Code.texts
        [opens "if (cached !== null)", "  " ++ Body.record n "inputData" "cached",
         "  return cached;", closes]
    let after : List Code :=
      [[.text "await ", .env "kv" name,
        .text (".put(cacheKey, JSON.stringify(result), " ++
          braced ("expirationTtl: " ++ toString ttl) ++ ");")]]
    return (before, after)

def modelLines (n : Node) (ctx : Context) : List Code :=
  let model := (n.setting "model").orElse (.str ctx.settings.aiModel)
  let prompt :=
    match n.setting "prompt" with
    | .null => "JSON.stringify(inputData)"
    | v => ctx.resolver.value v
  Code.texts
    ["const model = " ++ ctx.resolver.value model ++ ";", "const prompt = String(" ++ prompt ++ ");"]

/-- The model binding. -/
def modelEnv : CodePart := .env "ai" Builtin.aiBinding

/-- The temperature of the gateway unless it is told otherwise. -/
def gatewayTemperature : Json := .float (Binary64.ofDecimal false 7 (-1))

def aiGateway (n : Node) (ctx : Context) : Build Body := do
  let (before, after) ← cacheLines n ctx
  let options ← inferenceOptions n gatewayTemperature
  let message := "messages: [" ++ braced "role: \"user\", content: prompt" ++ "]"
  let gateway := n.setting "gatewayId"
  let extra :=
    if gateway.isGiven then ", " ++ braced ("gateway: " ++ braced ("id: " ++ gateway.compact)) else ""
  let call : Code :=
    [.text "const response = await ", modelEnv,
     .text (".run(model, " ++ braced (", ".intercalate (message :: options)) ++ extra ++ ");")]
  let result :=
    "const result = " ++ braced ("response, text: response?.response ?? response?.text ?? " ++
      "JSON.stringify(response), usage: response?.usage ?? null") ++ ";"
  return .durable (modelLines n ctx ++ before ++ [call] ++ Code.texts [result] ++ after)

def workersAi (n : Node) (ctx : Context) : Build Body := do
  let (before, after) ← cacheLines n ctx
  let options ← inferenceOptions n .null
  let call : Code :=
    [.text "const response = await ", modelEnv,
     .text (".run(model, " ++ braced (", ".intercalate ("prompt" :: options)) ++ ");")]
  let result :=
    "const result = " ++ braced "response, text: response?.response ?? JSON.stringify(response)" ++
      ";"
  return .durable (modelLines n ctx ++ before ++ [call] ++ Code.texts [result] ++ after)

end DurableFlow.Fragment
