import DurableFlow.Fragment.Branch

/-!
Nodes that go through an array, one item after the other or all at once.
-/

namespace DurableFlow.Fragment

/-- The names that the code of a loop uses itself. -/
def loopLocals : List String :=
  ["inputData", "inputArray", "items", "results", "errors", "result", "settled", "position"]

/-- A letter or an underscore, then letters, digits and underscores; a line feed may end the text. -/
def isVariable (s : String) : Bool :=
  match s.toList with
  | [] => false
  | c :: cs =>
    (Text.isAsciiLetter c || c = '_') &&
      (match cs.dropWhile Text.isAsciiWord with
        | [] => true
        | ['\n'] => true
        | _ => false)

/-- The name of a variable of the loop. -/
def loopVariable (n : Node) (key default : String) : Except Fault String :=
  match (n.setting key).orElse (.str default) with
  | .str name =>
    if !isVariable name || name ∈ Step.reservedWords || name ∈ loopLocals then
      .error (.badValue ("for-each node '" ++ n.id ++ "' cannot use '" ++ name ++ "' as " ++ key))
    else .ok name
  | _ => .error .wrongType

def thrownMessage (value : String) : String :=
  value ++ " instanceof Error ? " ++ value ++ ".message : String(" ++ value ++ ")"

def failureLines (thrown index : String) (goOn : Bool) : List String :=
  (if goOn then [] else ["    throw " ++ thrown ++ ";"]) ++
    ["    errors.push(" ++ braced ("index: " ++ index ++ ", error: " ++ thrownMessage thrown) ++ ");",
     "  " ++ closes, closes]

def parallelLines (item index mapped : String) (goOn : Bool) : List String :=
  ["const settled = await Promise.allSettled(items.map(async (" ++ item ++ ", " ++ index ++ ") => " ++
     mapped ++ "));",
   opens "for (let position = 0; position < settled.length; position++)",
   opens "  if (settled[position].status === \"fulfilled\")",
   "    results.push(settled[position].value);",
   "  " ++ reopens "else"] ++
  failureLines "settled[position].reason" "position" goOn

def sequentialLines (item index mapped : String) (goOn : Bool) : List String :=
  [opens ("for (let " ++ index ++ " = 0; " ++ index ++ " < items.length; " ++ index ++ "++)"),
   "  const " ++ item ++ " = items[" ++ index ++ "];",
   opens "  try",
   "    results.push(" ++ mapped ++ ");",
   "  " ++ reopens "catch (error)"] ++
  failureLines "error" index goOn

/-- Maps every item through an expression, by default to itself. Failures are collected unless the
first one is to end the loop. -/
def forEach (n : Node) (ctx : Context) : Build Body := do
  let item ← loopVariable n "itemName" "item"
  let index ← loopVariable n "indexName" "index"
  if item = index then
    Outcome.fail (.badValue ("for-each node '" ++ n.id ++ "' uses '" ++ item ++
      "' for both item and index"))
  let source ← pathExpression ((n.setting "array").orElse (.str "items")).plainText n ctx
  let expression := n.setting "expression"
  let mapped := if expression.isGiven then ctx.resolver.code expression.plainText else item
  let limit ← (n.settingD "maxIterations" (.int 1000)).toInt
  let goOn := (n.settingD "continueOnError" (.bool true)).isGiven
  let steps :=
    if (n.setting "parallel").isGiven then parallelLines item index mapped goOn
    else sequentialLines item index mapped goOn
  let lines :=
    ["const inputArray = " ++ source ++ " ?? [];",
     opens "if (!Array.isArray(inputArray))",
     "  throw new Error(\"for-each expects an array, got \" + typeof inputArray);",
     closes,
     "const items = inputArray.slice(0, " ++ toString limit ++ ");",
     "const results = [];",
     "const errors = [];"] ++ steps ++
    ["const result = " ++ braced "items, results, count: results.length, errors" ++ ";"]
  return .durable (Code.texts lines)

end DurableFlow.Fragment
