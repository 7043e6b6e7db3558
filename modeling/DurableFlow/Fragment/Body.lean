import DurableFlow.Binding.Basic
import DurableFlow.Expression.Resolver
import DurableFlow.Step.Name
import DurableFlow.Text.Lines

/-!
The code of a node before it is laid out. A line of code is made of texts and of reads of the
environment, so that the resources that a fragment reads can be told without searching its text. The
body of a node runs either inside a durable step or directly, and in both cases its last lines record
the state of the node and the result of its step.
-/

namespace DurableFlow

/-- A part of a line: text as it stands, or a resource of the environment. -/
inductive CodePart where
  | text (s : String)
  | env (kind name : String)
  deriving DecidableEq, Repr

/-- A line of code, or several lines that belong together. -/
abbrev Code := List CodePart

namespace CodePart

/-- Resources are read by their quoted name, except the model binding, whose name is fixed. -/
def render : CodePart → String
  | text s => s
  | env kind name =>
    if kind = "ai" then "this.env." ++ name else "this.env[" ++ Json.quote name ++ "]"

def read? : CodePart → Option (String × String)
  | text _ => none
  | env kind name => some (kind, name)

end CodePart

namespace Code

def render (c : Code) : String := String.join (c.map CodePart.render)

def texts (lines : List String) : List Code := lines.map fun s => [.text s]

def reads (c : Code) : List (String × String) := c.filterMap CodePart.read?

end Code

/-- Text that opens a block. -/
def opens (head : String) : String := head ++ " \x7b"

def closes : String := "\x7d"

/-- The end of a block with another one behind it. -/
def reopens (head : String) : String := closes ++ " " ++ opens head

def emptyObject : String := "\x7b\x7d"

/-- Everything that the code of a node may depend on. -/
structure Context where
  graph : Graph
  stepNames : List (String × String)
  catalog : Catalog
  settings : CompilerSettings

namespace Context

def ofGraph (g : Graph) (c : Catalog) (s : CompilerSettings) : Context := ⟨g, Step.names g, c, s⟩

def resolver (ctx : Context) : Resolver := ⟨ctx.stepNames.map (·.2)⟩

def stepName (ctx : Context) (n : Node) : String := (ctx.stepNames.lookup n.id).getD ""

/-- The place of the result of a node's step. -/
def resultRef (ctx : Context) (n : Node) : String := resultsVariable ++ "." ++ ctx.stepName n

/-- The input of a node: the output of the source of its first incoming edge, else the payload. -/
def input (ctx : Context) (n : Node) : String :=
  match ctx.graph.incoming n.id with
  | [] => "event.payload"
  | e :: _ => stateEntry e.source ++ "?.output || event.payload"

def addRoute (handle target : String) : List (String × List String) → List (String × List String)
  | [] => [(handle, [target])]
  | (h, ts) :: rest => if h = handle then (h, ts ++ [target]) :: rest else (h, ts) :: addRoute handle target rest

/-- The targets of a node's edges, grouped by handle. -/
def routes (ctx : Context) (n : Node) : List (String × List String) :=
  (ctx.graph.outgoing n.id).foldl (fun groups e =>
    match e.handle with
    | some handle => if handle = "" then groups else addRoute handle e.target groups
    | none => groups) []

end Context

/-- Reading a configuration while code is made from it. -/
abbrev Build := Outcome Fault

/-- The code of a node. A durable body runs with `inputData` in scope and defines `result`; a direct
body gives its input and output as expressions. -/
inductive Body where
  | durable (lines : List Code)
  | direct (setup : List Code) (input output : String)
  deriving Repr

namespace Body

def reads : Body → List (String × String)
  | durable lines => lines.flatMap Code.reads
  | direct setup _ _ => setup.flatMap Code.reads

/-- The assignment of the state of a node. -/
def record (n : Node) (input output : String) : String :=
  stateEntry n.id ++ " = " ++ braced ("input: " ++ input ++ ", output: " ++ output) ++ ";"

def render (ctx : Context) (n : Node) : Body → String
  | durable lines =>
    Text.block
      [opens (ctx.resultRef n ++ " = await step.do(" ++ Json.quote (ctx.stepName n) ++
         ", async () =>"),
       "  const inputData = " ++ ctx.input n ++ ";",
       Text.indent (Text.block (lines.map Code.render)),
       "  " ++ record n "inputData" "result",
       "  return result;",
       closes ++ ");"]
  | direct setup input output =>
    Text.block (setup.map Code.render ++
      [record n input output, ctx.resultRef n ++ " = " ++ stateEntry n.id ++ ".output;"])

end Body

end DurableFlow
