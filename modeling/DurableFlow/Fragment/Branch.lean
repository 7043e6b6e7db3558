import DurableFlow.Fragment.Body

/-!
Nodes that choose a branch: by a comparison, by an expression, or by the cases of a value.
-/

namespace DurableFlow.Fragment

/-- The comparison operators and the names that may be used for them. -/
def operators : List (String × String) :=
  [("===", "==="), ("!==", "!=="), ("==", "=="), ("!=", "!="), (">", ">"), ("<", "<"), (">=", ">="),
   ("<=", "<="), ("equals", "==="), ("notEquals", "!=="), ("greaterThan", ">"), ("lessThan", "<")]

/-- An operand given as a path or with references. A path that starts with `event` or with the input
is read as written, `state.<id>` reads another node, and anything else is a field of the payload. A
node never reads its own state. -/
def pathExpression (path : String) (n : Node) (ctx : Context) : Build String :=
  if Template.hasRefs path then return ctx.resolver.string path
  else
    let segments := Text.splitAt '.' path
    match segments with
    | "event" :: rest => return "event" ++ Path.render rest
    | "state" :: id :: rest =>
      if id ≠ n.id then return ctx.resolver.reference path
      else do
        Outcome.warn ("Node '" ++ n.id ++ "' references its own state in '" ++ path ++
          "'; reading the payload instead")
        return "event.payload" ++ Path.render rest
    | head :: rest =>
      if head ∈ ["inputData", "input", "data"] then return "inputData" ++ Path.render rest
      else return "event.payload" ++ Path.render segments
    | [] => return "event.payload"

/-- A value to compare with: a text with references is resolved, anything else is a literal. -/
def operand (v : Json) (ctx : Context) : String :=
  match v with
  | .str s => if Template.hasRefs s then ctx.resolver.string s else Json.quote s
  | v => v.compact

/-- The members of a condition that compares a left side with a right side. -/
def simpleCondition? (v : Json) : Option (Members × Json) :=
  match v with
  | .obj ms =>
    match (Members.get? "type" ms).getD (.str "simple"), Members.get? "left" ms with
    | .str "simple", some left => some (ms, left)
    | _, _ => none
  | _ => none

def comparison (ms : Members) (left : Json) (n : Node) (ctx : Context) :
    Build (String × String) := do
  let operator := (Members.get? "operator" ms).getD (.str "===")
  let right := (Members.get? "right" ms).getD .null
  let leftCode ← pathExpression left.plainText n ctx
  let rightCode := operand right ctx
  let description := left.plainText ++ " " ++ operator.plainText ++ " " ++ right.plainText
  match operator with
  | .str "contains" =>
    return ("String(" ++ leftCode ++ ").includes(String(" ++ rightCode ++ "))", description)
  | _ =>
    let key ← operator.asKey
    match key.string?.bind fun name => operators.lookup name with
    | some symbol => return (leftCode ++ " " ++ symbol ++ " " ++ rightCode, description)
    | none =>
      Outcome.warn ("Unsupported operator '" ++ operator.plainText ++ "' on node '" ++ n.id ++
        "'; using ===")
      return (leftCode ++ " === " ++ rightCode, description)

/-- The condition of a node as an expression, with its description; without one, it holds. -/
def condition (n : Node) (ctx : Context) : Build (String × String) :=
  let v := n.setting "condition"
  match simpleCondition? v with
  | some (ms, left) => comparison ms left n ctx
  | none =>
    match (v.field "expression").orElse (n.setting "expression") with
    | .str s =>
      if s.toList.all Text.isBlank then return ("true", "true") else return (ctx.resolver.code s, s)
    | _ => return ("true", "true")

def routesLine (n : Node) (ctx : Context) : String :=
  match ctx.routes n with
  | [] => "const routes = " ++ emptyObject ++ ";"
  | groups =>
    let entries := groups.map fun p => Json.quote p.1 ++ ": " ++ (Json.ofStrings p.2).compact
    "const routes = " ++ braced (", ".intercalate entries) ++ ";"

def conditional (n : Node) (ctx : Context) : Build Body := do
  let (expression, description) ← condition n ctx
  return .durable (Code.texts
    ["const conditionResult = Boolean(" ++ expression ++ ");",
     "const branch = conditionResult ? \"true\" : \"false\";",
     routesLine n ctx,
     "const result = " ++ braced ("branch, result: conditionResult, condition: " ++
       Json.quote description ++ ", next: routes[branch] || []") ++ ";"])

/-- The lines that compare a value with the cases that are not the default. -/
def caseLines (ctx : Context) : (first : Bool) → List Members → List String
  | first, [] => if first then [] else [closes]
  | first, ms :: rest =>
    let test := "if (conditionValue === " ++ operand ((Members.get? "value" ms).getD .null) ctx ++ ")"
    (if first then opens test else reopens ("else " ++ test)) ::
      ("  branch = " ++ ((Members.get? "case" ms).getD .null).compact ++ ";") ::
      caseLines ctx false rest

def isDefault (ms : Members) : Bool := ((Members.get? "isDefault" ms).getD .null).isGiven

/-- A router with cases; without cases it is a plain condition. -/
def router (n : Node) (ctx : Context) : Build Body :=
  let given := n.setting "cases"
  match given.isGiven, Members.get? "conditionPath" n.config with
  | true, some path => do
    let items ← given.elements
    let cases ← (items.mapM Json.asObject : Except Fault (List Members))
    let default : Json :=
      match cases.find? isDefault with
      | some ms => (Members.get? "case" ms).getD .null
      | none => .null
    let value ← pathExpression path.plainText n ctx
    let routing := cases.map fun ms =>
      let name := ((Members.get? "case" ms).getD .null).compact
      name ++ ": branch === " ++ name
    let lines :=
      ["const conditionValue = " ++ value ++ ";", "let branch = " ++ default.compact ++ ";"] ++
      caseLines ctx true (cases.filter fun ms => !isDefault ms) ++
      ["const routing = " ++ braced (", ".intercalate routing) ++ ";",
       routesLine n ctx,
       "const result = " ++ braced ("branch, result: branch !== null, value: conditionValue, " ++
         "routing, next: routes[branch] || []") ++ ";"]
    return .durable (Code.texts lines)
  | _, _ => conditional n ctx

end DurableFlow.Fragment
