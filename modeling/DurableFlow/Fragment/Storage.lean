import DurableFlow.Fragment.Body

/-!
Nodes that read and write key-value namespaces and query databases.
-/

namespace DurableFlow.Fragment

/-- The forms in which a value can be read. -/
def readForms : List String := ["text", "json", "arrayBuffer", "stream"]

def keyLine (n : Node) (ctx : Context) : String :=
  "const key = " ++ ctx.resolver.value (n.settingD "key" (.str "default-key")) ++ ";"

def kvGet (n : Node) (ctx : Context) : Build Body := do
  let namespaceName ← n.kvNamespace ctx.catalog "namespace"
  let form :=
    match n.settingD "type" (.str "text") with
    | .str s => if s ∈ readForms then s else "text"
    | _ => "text"
  let read : Code :=
    [.text "const value = await ", .env "kv" namespaceName,
     .text (".get(key, " ++ Json.quote form ++ ");")]
  let check : List Code :=
    if (n.setting "throwIfMissing").isGiven then
      Code.texts
        [opens "if (value === null)", "  throw new Error(`Key not found: $\x7bkey\x7d`);", closes]
    else []
  let result :=
    "const result = " ++ braced ("value, exists: value !== null, metadata: value !== null ? " ++
      braced "key" ++ " : null") ++ ";"
  return .durable (Code.texts [keyLine n ctx] ++ [read] ++ check ++ Code.texts [result])

/-- An entry of the options for a number of seconds, when it is given. -/
def secondsOption (ms : Members) (key : String) : Except Fault (List String) := do
  let v := (Members.get? key ms).getD .null
  if v.isGiven then
    let seconds ← v.toInt
    return [key ++ ": " ++ toString seconds]
  else return []

/-- The last argument of a write. -/
def putOptions (v : Json) (r : Resolver) : Except Fault String :=
  match v with
  | .obj ms => do
    let ttl ← secondsOption ms "expirationTtl"
    let expiration ← secondsOption ms "expiration"
    let metadata := v.field "metadata"
    let entries := ttl ++ expiration ++
      (if metadata.isGiven then ["metadata: " ++ r.value metadata] else [])
    return if entries.isEmpty then "" else ", " ++ braced (", ".intercalate entries)
  | _ => .ok ""

def kvPut (n : Node) (ctx : Context) : Build Body := do
  let namespaceName ← n.kvNamespace ctx.catalog "namespace"
  let value :=
    match n.setting "value" with
    | .obj ms => ctx.resolver.source "content" ms
    | .null => "inputData"
    | v => ctx.resolver.value v
  let options ← putOptions (n.setting "options") ctx.resolver
  let write : Code :=
    [.text "await ", .env "kv" namespaceName, .text (".put(key, stored" ++ options ++ ");")]
  return .durable (Code.texts
      [keyLine n ctx,
       "const value = " ++ value ++ ";",
       "const stored = typeof value === \"string\" ? value : JSON.stringify(value);"] ++
    [write] ++ Code.texts ["const result = " ++ braced "success: true, key" ++ ";"])

/-- The bound parameters of a query, each given as an object with a value or as the value. -/
def queryParameters (v : Json) (r : Resolver) : Except Fault (List String) := do
  let items ← v.elementsIfGiven
  return items.map fun item =>
    match item with
    | .obj ms => r.value ((Members.get? "value" ms).getD .null)
    | v => r.value v

/-- How the statement is run. -/
def executeLines (returnType : Json) : List String :=
  match returnType with
  | .str "first" =>
    ["const row = await statement.first();",
     "result = " ++ braced ("success: true, results: row === null ? [] : [row], row, meta: " ++
       emptyObject) ++ ";"]
  | .str "run" =>
    ["const runResult = await statement.run();",
     "result = " ++ braced ("success: runResult.success ?? true, results: [], meta: runResult.meta ?? " ++
       emptyObject) ++ ";"]
  | _ =>
    ["const queryResult = await statement.all();",
     "result = " ++ braced ("success: queryResult.success ?? true, " ++
       "results: queryResult.results ?? [], meta: queryResult.meta ?? " ++ emptyObject) ++ ";"]

/-- A query whose failure is part of its result. -/
def d1Query (n : Node) (ctx : Context) : Build Body := do
  let database := n.d1Database "database"
  let query := (n.setting "query").orElse (.str "SELECT 1")
  if Template.inValue query then
    Outcome.warn ("Node '" ++ n.id ++ "' interpolates templates into SQL text; prefer bound params")
  let parameters ← queryParameters (n.setting "params") ctx.resolver
  let bound := if parameters.isEmpty then "" else ".bind(" ++ ", ".intercalate parameters ++ ")"
  let statement : Code :=
    [.text "  const statement = ", .env "d1" database,
     .text (".prepare(" ++ ctx.resolver.value query ++ ")" ++ bound ++ ";")]
  let execute := (executeLines (n.settingD "returnType" (.str "all"))).map ("  " ++ ·)
  return .durable (Code.texts ["let result;", opens "try"] ++ [statement] ++ Code.texts (execute ++
    [reopens "catch (error)",
     "  const message = error instanceof Error ? error.message : String(error);",
     "  result = " ++ braced ("success: false, error: message, results: [], meta: " ++ emptyObject) ++
       ";",
     closes]))

end DurableFlow.Fragment
