import DurableFlow.Catalog.Builtin
import DurableFlow.Graph.Basic
import DurableFlow.Json.Convert
import DurableFlow.Settings.Basic

/-!
The names of the resources that nodes use. A name that is not given in the configuration of a node is
taken from the schema of its type, and every character outside letters, digits and the underscore is
replaced, so that a name can be a member of the environment.
-/

namespace DurableFlow

def safeChar (c : Char) : Char := if Text.isAsciiWord c then c else '_'

/-- Replaces every character that is not a letter, a digit or an underscore. -/
def safeName (s : String) : String := String.ofList (s.toList.map safeChar)

namespace Node

/-- The name of a key-value namespace: a text in the configuration other than `default`, else the
default of the schema, else `KV`. -/
def kvNamespace (n : Node) (c : Catalog) (name : String) : Except Fault String := do
  let fallback : Except Fault String := do
    let declared ← c.schemaDefault n.type name
    return (declared.orElse (.str Builtin.kvBinding)).plainText
  let chosen ←
    match n.setting name with
    | .str s => if s ≠ "" && s ≠ "default" then .ok s else fallback
    | _ => fallback
  return safeName chosen

/-- The name of a database: the configured value, else `DB`. -/
def d1Database (n : Node) (name : String) : String :=
  safeName ((n.setting name).orElse (.str Builtin.d1Binding)).plainText

/-- How long the answers of a model node are cached, in seconds; zero for not at all. The gateway
caches unless told otherwise. -/
def cacheTtl (n : Node) (s : CompilerSettings) : Except Fault Int :=
  match n.setting "cacheTTL" with
  | .null => .ok (if n.type = "ai-gateway" then s.aiCacheTtl else 0)
  | v => do
    let ttl ← v.toInt
    return max ttl 0

/-- The namespace of the cache of a model node, if it caches. -/
def cacheNamespace (n : Node) (c : Catalog) (s : CompilerSettings) :
    Except Fault (Option String) := do
  let ttl ← n.cacheTtl s
  if ttl ≤ 0 then return none
  let name ← n.kvNamespace c "cacheNamespace"
  return some name

/-- The name of a required resource of a node, if the node uses it. -/
def requirementName (n : Node) (r : Requirement) (c : Catalog) (s : CompilerSettings) :
    Except Fault (Option String) :=
  if r.kind = "ai" then .ok (some Builtin.aiBinding)
  else if r.kind = "kv" then
    match r.configField.getD "" with
    | "cacheNamespace" => n.cacheNamespace c s
    | "" => .ok (some (safeName r.name))
    | name => (n.kvNamespace c name).map some
  else if r.kind = "d1" then .ok (some (n.d1Database (firstGiven [r.configField.getD "", "database"])))
  else
    let configured : Json :=
      match r.configField.getD "" with
      | "" => .null
      | name => n.setting name
    .ok (some (safeName (configured.orElse (.str r.name)).plainText))

end Node

/-- A node that uses a resource. -/
structure Usage where
  nodeId : String
  nodeType : String
  deriving DecidableEq, Repr

/-- A resource that a compiled module needs, with the nodes that use it. -/
structure Binding where
  name : String
  kind : String
  required : Bool := true
  description : Option String := none
  usages : List Usage := []
  deriving DecidableEq, Repr

namespace Binding

open Checked in
def readUsage (v : Json) : Checked Usage :=
  record "BindingUsage" (fun ms =>
    Usage.mk <$> fieldOr ms ["nodeId", "node_id"] string (under "nodeId" (issue .missing)) <*>
      fieldOr ms ["nodeType", "node_type"] string (under "nodeType" (issue .missing))) v

open Checked in
def read (v : Json) : Checked Binding :=
  record "Binding" (fun ms =>
    Binding.mk <$> field ms "name" string <*> field ms "kind" string <*>
      fieldD ms ["required"] bool true <*>
      fieldD ms ["description"] (optional string) none <*>
      fieldD ms ["usageSites", "usage_sites"] (list readUsage) []) v

def toJson (b : Binding) : Json :=
  .obj ([("name", .str b.name), ("kind", .str b.kind), ("required", .bool b.required)] ++
    (b.description.map fun d => ("description", Json.str d)).toList ++
    [("usageSites", .arr (b.usages.map fun u =>
      .obj [("nodeId", .str u.nodeId), ("nodeType", .str u.nodeType)]))])

end Binding

end DurableFlow
