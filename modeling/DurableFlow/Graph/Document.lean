import DurableFlow.Error
import DurableFlow.Graph.Basic
import DurableFlow.Json.Reader
import DurableFlow.Schema.Check

/-!
Graph documents and the rules for their structure. The structure of a document is checked before it is
read as a graph, so that problems are reported with their place.
-/

namespace DurableFlow.Document

def typed (names : List String) (rules : List Rule := []) : Schema :=
  let shown : Json :=
    match names with
    | [name] => .str name
    | names => Json.ofStrings names
  .rules (.types names shown :: rules)

def textSchema : Schema := typed ["string"]

def filledSchema : Schema := typed ["string"] [.size .text .least 1]

def textOrNull : Schema := typed ["string", "null"]

def numberSchema : Schema := typed ["number"]

def objectSchema : Schema := typed ["object"]

def positionSchema : Schema := typed ["object"] [.properties [("x", numberSchema), ("y", numberSchema)]]

def dataSchema : Schema :=
  typed ["object"]
    [.properties [("label", textOrNull), ("stepName", textOrNull), ("config", objectSchema)]]

def nodeSchema : Schema :=
  typed ["object"]
    [.properties
      [("id", filledSchema), ("type", textSchema), ("position", positionSchema),
       ("config", objectSchema), ("data", dataSchema)],
     .required ["id"]]

def edgeSchema : Schema :=
  typed ["object"]
    [.properties
      [("id", textOrNull), ("source", filledSchema), ("target", filledSchema),
       ("sourceHandle", textOrNull)],
     .required ["source", "target"]]

def schema : Schema :=
  typed ["object"]
    [.properties
      [("id", textSchema), ("name", textSchema),
       ("nodes", typed ["array"] [.size .items .least 1, .each nodeSchema]),
       ("edges", typed ["array"] [.each edgeSchema])],
     .required ["nodes"]]

def violations (v : Json) : List Violation := Schema.inOrder (schema.check Schema.noReferences v)

def problems (v : Json) : List String :=
  (violations v).map fun e => Violation.pathText e.path ++ ": " ++ e.message

/-- Advice on how a violation can be mended. -/
def advice : BrokenRule → String
  | .required name =>
    match Text.splitAt '\'' (Json.displayString name) with
    | _ :: quoted :: _ => "Add the required field '" ++ quoted ++ "'"
    | _ => "Add the missing required field"
  | .type expected found =>
    "Change type from '" ++ found.typeLabel ++ "' to '" ++ expected.plainText ++ "'"
  | .minItems => "Add at least one node to the workflow"
  | .minLength => "Use a non-empty value"
  | _ => ""

def firstProblem? (v : Json) : Option StructureError :=
  (violations v).head?.map fun e =>
    { text := e.message, path := Violation.pathText e.path, suggestion := advice e.broken }

/-- The problems of a configuration under a schema given as a value. No schema, or an empty one,
allows everything. -/
def configProblemsBy (validator : Schema.Validator) (config schema : Json) :
    Except Fault (List String) :=
  if !schema.isGiven then .ok []
  else do
    let found ← validator schema config
    return (Schema.inOrder found).map fun e =>
      let path := Violation.pathText e.path
      (if path = "root" then "config" else "config." ++ path) ++ ": " ++ e.message

def configProblems : (config schema : Json) → Except Fault (List String) :=
  configProblemsBy Schema.validate

end DurableFlow.Document
