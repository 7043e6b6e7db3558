import DurableFlow.Expression.Path
import DurableFlow.Json.Reader
import DurableFlow.Text.Split

/-!
Reading a graph back from the source of a module. Every fragment logs its start with the id, the name
and the type of its node, so the nodes can be found in the order in which they run. Configurations are
not recovered, and the edges chain the nodes.
-/

namespace DurableFlow.Skeleton

/-- The rest of a quoted text, up to and with its closing quote, and what follows. A backslash takes
the next character with it, unless that is a line feed. -/
def stringRest : (escaped : Bool) → List Char → Option (List Char × List Char)
  | _, [] => none
  | true, c :: cs => if c = '\n' then none else (stringRest false cs).map fun p => (c :: p.1, p.2)
  | false, c :: cs =>
    if c = '"' then some (['"'], cs)
    else (stringRest (c = '\\') cs).map fun p => (c :: p.1, p.2)

/-- A quoted text at the start, with its quotes. -/
def stringToken? : List Char → Option (List Char × List Char)
  | '"' :: cs => (stringRest false cs).map fun p => ('"' :: p.1, p.2)
  | _ => none

/-- A label and the quoted text behind it. -/
def labelled? (label : String) (cs : List Char) : Option (List Char × List Char) :=
  (Text.after? label.toList cs).bind stringToken?

/-- The texts of a start event. -/
structure StartEvent where
  id : List Char
  name : List Char
  type : List Char
  deriving DecidableEq, Repr

def startEvent? (cs : List Char) : Option (StartEvent × List Char) := do
  let (id, rest) ← labelled? "type: \"WF_NODE_START\", nodeId: " cs
  let (name, rest) ← labelled? ", nodeName: " rest
  let (type, rest) ← labelled? ", nodeType: " rest
  return (⟨id, name, type⟩, rest)

/-- A start event with the text up to the next one. -/
structure Found where
  event : StartEvent
  segment : List Char
  deriving DecidableEq, Repr

/-- Puts a character in front of the text that precedes the first event. -/
def consBefore (c : Char) (p : List Char × List Found) : List Char × List Found := (c :: p.1, p.2)

/-- The text in front of the first event, and the events with their segments, after `skip` characters
that belong to an event. -/
def scanFrom : (skip : Nat) → List Char → List Char × List Found
  | _, [] => ([], [])
  | skip + 1, _ :: cs => scanFrom skip cs
  | 0, c :: cs =>
    match startEvent? (c :: cs) with
    | some (event, rest) =>
      let p := scanFrom (cs.length - rest.length) cs
      ([], ⟨event, p.1⟩ :: p.2)
    | none => consBefore c (scanFrom 0 cs)

def scan (cs : List Char) : List Found := (scanFrom 0 cs).2

/-- The first result of trying every place of a text. -/
def first? {α : Type} (at? : List Char → Option α) : List Char → Option α
  | [] => at? []
  | c :: cs => (at? (c :: cs)).orElse fun _ => first? at? cs

def stepCalls : List String := ["step.do(", "step.sleep(", "step.sleepUntil(", "step.waitForEvent("]

/-- The quoted name of a step at the start of the text. -/
def stepLabel? (cs : List Char) : Option (List Char) :=
  stepCalls.findSome? fun call => (labelled? call cs).map (·.1)

/-- The name of the result that is assigned at the start of the text. -/
def resultName? (cs : List Char) : Option (List Char) :=
  match Text.after? "_workflowResults.".toList cs with
  | some (c :: rest) =>
    if Path.isNameStart c then
      let more := rest.takeWhile Path.isNamePart
      match Text.after? " =".toList (rest.dropWhile Path.isNamePart) with
      | some _ => some (c :: more)
      | none => none
    else none
  | _ => none

/-- The name of the workflow class that is declared at the start of the text. -/
def className? (cs : List Char) : Option (List Char) :=
  match Text.after? "export class ".toList cs with
  | some rest =>
    let name := rest.takeWhile Text.isWord
    match name, Text.after? " extends WorkflowEntrypoint".toList (rest.dropWhile Text.isWord) with
    | _ :: _, some _ => some name
    | _, _ => none
  | none => none

/-- Why no graph can be read from a source. -/
inductive Error where
  | noMarkers
  | text (e : Json.ParseError)
  deriving Repr

namespace Error

def message : Error → String
  | noMarkers => "No generated node markers found; was this module produced by stepflow?"
  | text e => e.message

end Error

def unquote (token : List Char) : Except Error Json :=
  match Json.parse (String.ofList token) with
  | .ok v => .ok v
  | .error e => .error (.text e)

/-- A recovered node: its id, its label, its type and the name of its step. -/
structure Entry where
  id : Json
  name : Json
  type : Json
  step : Option Json
  deriving Repr

def Found.entry (f : Found) : Except Error Entry := do
  let id ← unquote f.event.id
  let name ← unquote f.event.name
  let type ← unquote f.event.type
  let step ←
    match first? stepLabel? f.segment with
    | some token => (unquote token).map some
    | none => pure ((first? resultName? f.segment).map fun cs => .str (String.ofList cs))
  return ⟨id, name, type, step⟩

def Entry.idText (e : Entry) : String := (e.id.string?).getD ""

def Entry.toJson (e : Entry) : Json :=
  .obj [("id", e.id), ("type", e.type),
    ("data", .obj ([("label", e.name), ("config", .obj [])] ++
      (e.step.map fun s => ("stepName", s)).toList))]

/-- The edge from one node to the next. -/
def edge (a b : Entry) : Json :=
  .obj [("id", .str ("e-" ++ a.idText ++ "-" ++ b.idText)), ("source", a.id), ("target", b.id)]

/-- The graph that a source was made from, as far as it can be told. -/
def recover (source : String) : Except Error Json := do
  let cs := source.toList
  match scan cs with
  | [] => .error .noMarkers
  | found =>
    let entries ← found.mapM Found.entry
    let name : Json :=
      match first? className? cs with
      | some name => .str (String.ofList name)
      | none => .str "workflow"
    let edges := List.zipWith edge entries entries.tail
    return .obj [("id", name), ("name", name), ("nodes", .arr (entries.map Entry.toJson)),
      ("edges", .arr edges)]

end DurableFlow.Skeleton
