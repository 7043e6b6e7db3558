import DurableFlow.Fragment.Body

/-!
Nodes that check the payload against rules. Each rule that fails adds an entry to a list of errors.
-/

namespace DurableFlow.Fragment

/-- The condition under which a rule other than a missing value applies. -/
def present : String := "value !== undefined && value !== null"

def pushError (field : String) (rule message : String) : String :=
  "errors.push(" ++ braced ("field: " ++ Json.quote field ++ ", rule: " ++ rule ++ ", message: " ++
    message) ++ ");"

/-- The code of a rule with a test: the error is added when the test holds. -/
def ruleBlock (value failed push : String) : String :=
  Text.block
    ["\x7b", "  const value = " ++ value ++ ";", opens ("  if (" ++ failed ++ ")"), "    " ++ push,
     "  " ++ closes, closes]

def emailTest : String := "!/^[^\\s@]+@[^\\s@]+\\.[^\\s@]+$/.test(String(value))"

def urlTest : String := "!/^https?:\\/\\//i.test(String(value))"

def sizeOfValue : String := "(Array.isArray(value) ? value.length : String(value).length)"

def ruleCode (ctx : Context) (ms : Members) : Except Fault String :=
  let get (key : String) (default : Json) : Json := (Members.get? key ms).getD default
  let rule := get "type" (.str "")
  let field := (get "field" (.str "")).plainText
  let value := "data" ++ (if field = "" then "" else Path.render (Text.splitAt '.' field))
  let messageOr (default : String) : String := ((get "message" .null).orElse (.str default)).compact
  let shownField := if field = "" then "value" else field
  let push := pushError field rule.compact
    (messageOr (shownField ++ " failed " ++ rule.plainText ++ " validation"))
  match rule with
  | .str "required" =>
    .ok (ruleBlock value "value === undefined || value === null || value === \"\""
      (pushError field (Json.quote "required") (messageOr (field ++ " is required"))))
  | .str "email" => .ok (ruleBlock value (present ++ " && " ++ emailTest) push)
  | .str "url" => .ok (ruleBlock value (present ++ " && " ++ urlTest) push)
  | .str "length" => do
    let low ← (get "min" (.int 0)).toInt
    let high ← (get "max" (.int 1000)).toInt
    return ruleBlock value (present ++ " && (" ++ sizeOfValue ++ " < " ++ toString low ++ " || " ++
      sizeOfValue ++ " > " ++ toString high ++ ")") push
  | .str "range" =>
    .ok (ruleBlock value (present ++ " && (Number.isNaN(Number(value)) || Number(value) < " ++
      (get "min" (.int 0)).compact ++ " || Number(value) > " ++ (get "max" (.int 1000)).compact ++ ")")
      push)
  | .str "regex" =>
    .ok (ruleBlock value (present ++ " && !new RegExp(" ++
      Json.quote (get "pattern" (.str "")).plainText ++ ").test(String(value))") push)
  | .str "custom" =>
    let expression := get "expression" .null
    if expression.isGiven then
      .ok (ruleBlock value ("!(" ++ ctx.resolver.code expression.plainText ++ ")") push)
    else
      .ok (Text.block
        ["\x7b", "  const value = " ++ value ++ ";",
         Text.indent (ctx.resolver.code (get "customCode" (.str "")).plainText), closes])
  | _ =>
    .ok ("// Unsupported validation rule " ++ rule.compact ++ " on field " ++ Json.quote field)

def validate (n : Node) (ctx : Context) : Build Body := do
  let items ← (n.setting "rules").elementsIfGiven
  let rules ← ((items.filterMap Json.members?).mapM (ruleCode ctx) : Except Fault (List String))
  let refuse :=
    match n.settingD "onFailure" (.str "error") with
    | .str "error" =>
      [opens "if (!valid)",
       "  throw new Error(\"Validation failed: \" + errors.map((e) => e.message).join(\", \"));",
       closes]
    | _ => []
  let lines :=
    ["const data = event.payload || " ++ emptyObject ++ ";", "const errors = [];"] ++ rules ++
    ["const valid = errors.length === 0;"] ++ refuse ++
    ["const result = " ++ braced ("valid, errors, data: valid ? data : null, message: valid ? " ++
      "\"Validation passed\" : \"Validation failed\"") ++ ";"]
  return .durable (Code.texts lines)

end DurableFlow.Fragment
