import DurableFlow.Binding.Collect
import DurableFlow.Expression.Resolver
import DurableFlow.Json.Equal
import DurableFlow.Module.Name

/-!
Workflows as tools. The parameter list of a tool-input node gives the manifest of the tool, and the
shape with which the tool server checks the arguments of a call.
-/

namespace DurableFlow.Tool

/-- A parameter: its name, and the members it was given with. -/
structure Parameter where
  name : Json
  members : Members
  deriving Repr

namespace Parameter

def get (p : Parameter) (key : String) : Json := (Members.get? key p.members).getD .null

def type (p : Parameter) : Json := (Members.get? "type" p.members).getD (.str "string")

def isRequired (p : Parameter) : Bool := (p.get "required").isGiven

end Parameter

/-- The parameters of a node: the objects of its list that have a name. -/
def parameters (n : Node) : Except Fault (List Parameter) := do
  let items ← (n.setting "parameters").elementsIfGiven
  return items.filterMap fun item =>
    match item with
    | .obj ms =>
      let name := (Members.get? "name" ms).getD .null
      if name.isGiven then some ⟨name, ms⟩ else none
    | _ => none

def parameterSchema (p : Parameter) : Json :=
  let description :=
    (p.get "description").orElse (.str (p.name.plainText ++ " parameter"))
  let rules : Members :=
    match p.type with
    | .str "array" => [("type", .str "array"), ("items", .obj [("type", .str "string")])]
    | .str "object" => [("type", .str "object"), ("additionalProperties", .bool true)]
    | type => [("type", type)]
  .obj (rules ++ [("description", description)])

/-- The properties of a tool's arguments; a repeated name takes its last schema. -/
def properties : List (Json × Json) → List Parameter → Except Fault (List (Json × Json))
  | acc, [] => .ok acc
  | acc, p :: ps => do
    let key ← p.name.asKey
    properties (Json.setKey key (parameterSchema p) acc) ps

/-- The name of the tool: the configured one, else one made from the name of the workflow. -/
def name (n : Node) (workflow : String) : Json :=
  let plain := String.ofList ((Module.slug workflow).toList.map fun c => if c = '-' then '_' else c)
  (n.setting "toolName").orElse (.str (plain ++ "_tool"))

def description (n : Node) (workflow : String) : Json :=
  (n.setting "description").orElse (.str ("Execute " ++ workflow ++ " via MCP"))

def version : String := "1.0.0"

/-- What a tool is called and does, and the arguments it takes. A property is found under the name of
its parameter, which need not be a text. -/
structure Manifest where
  name : Json
  description : Json
  properties : List (Json × Json)
  required : List Json
  deriving Repr

/-- The manifest as an object, with the names of the properties written by `key`. -/
def Manifest.toJson (m : Manifest) (key : Json → String) : Json :=
  .obj
    [("name", m.name),
     ("description", m.description),
     ("version", .str version),
     ("inputSchema", .obj
       [("type", .str "object"),
        ("properties", .obj (m.properties.map fun p => (key p.1, p.2))),
        ("required", .arr m.required)])]

def manifest (n : Node) (workflow : String) : Except Fault Manifest := do
  let ps ← parameters n
  return {
    name := name n workflow
    description := description n workflow
    properties := ← properties [] ps
    required := (ps.filter Parameter.isRequired).map (·.name) }

/-- The checks for the types of parameters. -/
def shapes : List (String × String) :=
  [("string", "z.string()"), ("number", "z.number()"), ("boolean", "z.boolean()"),
   ("array", "z.array(z.any())"), ("object", "z.record(z.any())")]

def shapeEntry (p : Parameter) : Except Fault String := do
  let type ← p.type.asKey
  let base := (type.string?.bind fun name => shapes.lookup name).getD "z.any()"
  let description := p.get "description"
  return p.name.compact ++ ": " ++ base ++
    (if description.isGiven then ".describe(" ++ description.compact ++ ")" else "") ++
    (if p.isRequired then "" else ".optional()")

def shape (n : Node) : Except Fault String := do
  let ps ← parameters n
  let entries ← ps.mapM shapeEntry
  return if entries.isEmpty then "\x7b\x7d" else braced (", ".intercalate entries)

def serverBinding : String := "MCP_OBJECT"

/-- The bindings that a module needs to serve its workflow as a tool. -/
def bindings (className : String) (n : Node) : List Binding :=
  [{ name := serverBinding
     kind := "durable_object"
     description := some ("Durable object hosting " ++ Module.toolClass className)
     usages := [⟨n.id, n.type⟩] },
   { name := Module.bindingName className
     kind := "workflow"
     description := some ("Workflow binding for " ++ className)
     usages := [⟨n.id, n.type⟩] }]

end DurableFlow.Tool
