import DurableFlow.Graph.Basic
import DurableFlow.Json.Convert
import DurableFlow.Json.Equal
import DurableFlow.Record.Checked

/-!
Reading graphs from JSON values and writing them back. A configuration that stands beside the data of
a node is folded into it; where both have a key, the one inside the data wins.
-/

namespace DurableFlow

open Checked

namespace Position

def read (v : Json) : Checked Position :=
  record "Position" (fun ms =>
    Position.mk <$> fieldD ms ["x"] number (.int 0) <*> fieldD ms ["y"] number (.int 0)) v

def toJson (p : Position) : Json := .obj [("x", p.x), ("y", p.y)]

end Position

namespace NodeData

def fields : List (List String) := [["label"], ["stepName", "step_name"], ["config"]]

def read (v : Json) : Checked NodeData :=
  record "NodeData" (fun ms =>
    NodeData.mk <$> fieldD ms ["label"] (optional string) none <*>
      fieldD ms ["stepName", "step_name"] (optional string) none <*>
      fieldD ms ["config"] dictionary [] <*> pure (extras ms fields)) v

def ofOption : Option String → Json
  | some s => .str s
  | none => .null

def toJson (d : NodeData) : Json :=
  .obj ([("label", ofOption d.label), ("stepName", ofOption d.stepName),
    ("config", .obj d.config)] ++ d.extra)

end NodeData

/-- The result of looking a node's data over before its fields are read. -/
inductive Folded where
  | members (ms : Members) (badKeys : List String)
  | refused (reason : String)
  | stopped

namespace Folded

def lengthReason (index size : Nat) : String :=
  "dictionary update sequence element #" ++ toString index ++ " has length " ++ toString size ++
    "; 2 is required"

/-- The parts of a value that can be taken apart: items, keys or characters. -/
def parts? : Json → Option (List Json)
  | .arr items => some items
  | .obj ms => some (ms.map fun m => .str m.1)
  | .str s => some (s.toList.map fun c => .str c.toString)
  | _ => none

/-- How a key that is no text is named in the place of an issue: truth values by their numbers, other
values as they are shown. -/
def keyName : Json → String
  | .bool b => if b then "1" else "0"
  | v => v.display

/-- The pairs with a text for a key are members; the other keys are bad. -/
def ofTable (table : List (Json × Json)) : Folded :=
  .members (table.filterMap fun p => p.1.string?.map fun key => (key, p.2))
    ((table.filter fun p => p.1.string?.isNone).map fun p => keyName p.1)

/-- Reads a list of pairs as a table. -/
def pairsFrom (index : Nat) (table : List (Json × Json)) : List Json → Folded
  | [] => ofTable table
  | v :: vs =>
    match parts? v with
    | none => .stopped
    | some [key, value] =>
      if key.isKey then pairsFrom (index + 1) (Json.setKey key value table) vs else .stopped
    | some parts => .refused (lengthReason index parts.length)

/-- The data of a node as members: an object, a list of pairs, or nothing. -/
def ofData (v : Json) : Folded :=
  if !v.isGiven then .members [] []
  else
    match v with
    | .obj ms => .members ms []
    | .arr items => pairsFrom 0 [] items
    | .str _ => .refused (lengthReason 0 1)
    | _ => .stopped

/-- The members of an optional object; anything else that is given cannot be merged. -/
def objectOrEmpty? (v : Json) : Option Members :=
  if !v.isGiven then some []
  else v.members?

end Folded

namespace Node

/-- Folds a configuration beside the data into it. -/
def fold (ms : Members) : Folded :=
  match Members.get? "config" ms with
  | none => .members ms []
  | some top =>
    match Folded.ofData ((Members.get? "data" ms).getD .null) with
    | .members data badKeys =>
      match Folded.objectOrEmpty? top,
        Folded.objectOrEmpty? ((Members.get? "config" data).getD .null) with
      | some outer, some inner =>
        let merged := Members.set "config" (.obj (Members.merge outer inner)) data
        .members (Members.set "data" (.obj merged) (Members.erase "config" ms)) badKeys
      | _, _ => .stopped
    | other => other

def fields : List (List String) := [["id"], ["type"], ["position"], ["data"]]

/-- Reads the fields of a node whose configuration is folded. -/
def readFields (badKeys : List String) (ms : Members) : Checked Node :=
  let keys : Checked Unit :=
    if badKeys.isEmpty then pure ()
    else .issues (badKeys.map fun key => ⟨["data", key], .keyExpected⟩)
  (fun id type position data (_ : Unit) => Node.mk id type position data (extras ms fields)) <$>
    field ms "id" string <*> fieldD ms ["type"] string "" <*>
    fieldD ms ["position"] (optional Position.read) none <*>
    fieldD ms ["data"] NodeData.read {} <*> keys

def read (v : Json) : Checked Node :=
  match v with
  | .obj ms =>
    match fold ms with
    | .members folded badKeys => readFields badKeys folded
    | .refused reason => issue (.refused reason)
    | .stopped => .stopped
  | _ => issue (.recordExpected "Node")

def toJson (n : Node) : Json :=
  .obj ([("id", .str n.id), ("type", .str n.type),
    ("position", (n.position.map Position.toJson).getD .null), ("data", n.data.toJson)] ++ n.extra)

end Node

namespace Edge

def fields : List (List String) := [["id"], ["source"], ["target"], ["sourceHandle", "source_handle"]]

def read (v : Json) : Checked Edge :=
  record "Edge" (fun ms =>
    Edge.mk <$> fieldD ms ["id"] (optional string) none <*> field ms "source" string <*>
      field ms "target" string <*>
      fieldD ms ["sourceHandle", "source_handle"] (optional string) none <*>
      pure (extras ms fields)) v

def toJson (e : Edge) : Json :=
  .obj ([("id", NodeData.ofOption e.id), ("source", .str e.source), ("target", .str e.target),
    ("sourceHandle", NodeData.ofOption e.handle)] ++ e.extra)

end Edge

namespace Graph

def fields : List (List String) := [["id"], ["name"], ["nodes"], ["edges"]]

/-- The name of the record in messages. -/
def recordName : String := "WorkflowGraph"

def read (v : Json) : Checked Graph :=
  record recordName (fun ms =>
    Graph.mk <$> fieldD ms ["id"] string "workflow" <*> fieldD ms ["name"] string "workflow" <*>
      fieldD ms ["nodes"] (list Node.read) [] <*> fieldD ms ["edges"] (list Edge.read) [] <*>
      pure (extras ms fields)) v

def toJson (g : Graph) : Json :=
  .obj ([("id", .str g.id), ("name", .str g.name), ("nodes", .arr (g.nodes.map Node.toJson)),
    ("edges", .arr (g.edges.map Edge.toJson))] ++ g.extra)

end Graph

end DurableFlow
