import DurableFlow.Json.Reader
import DurableFlow.Json.Writer
import DurableFlow.Outcome
import DurableFlow.Record.Checked

/-!
Catalogs of node types. A definition says what a type is called, how its configuration is checked and
which resources it needs; a catalog has one definition for each type.
-/

namespace DurableFlow

open Checked

def resourceKinds : List String := ["kv", "d1", "ai", "r2", "durable_object", "workflow"]

/-- A resource that a node type needs; `configField` names the member of the configuration that may
override its name. -/
structure Requirement where
  kind : String
  name : String
  required : Bool := true
  description : String := ""
  configField : Option String := none
  deriving DecidableEq, Repr, Inhabited

namespace Requirement

def readKind (v : Json) : Checked String :=
  (string v).andThen fun kind =>
    if kind ∈ resourceKinds then .ok kind
    else
      issue (.refused ("Invalid binding kind: " ++ kind ++ ". Must be one of: " ++
        ", ".intercalate resourceKinds))

def read (v : Json) : Checked Requirement :=
  record "BindingRequirement" (fun ms =>
    Requirement.mk <$> field ms "kind" readKind <*> field ms "name" string <*>
      fieldD ms ["required"] bool true <*> fieldD ms ["description"] string "" <*>
      fieldD ms ["configField", "config_field"] (optional string) none) v

def toJson (r : Requirement) : Json :=
  .obj ([("kind", .str r.kind), ("name", .str r.name), ("required", .bool r.required),
    ("description", .str r.description)] ++
    (r.configField.map fun field => ("configField", Json.str field)).toList)

end Requirement

/-- The entry of a catalog for one node type. -/
structure Definition where
  type : String
  name : String
  description : String := ""
  category : String := "utils"
  configSchema : Members := []
  bindings : List Requirement := []
  examples : List Members := []
  presetOutput : Option Members := none
  deriving Repr, Inhabited

namespace Definition

def recordName : String := "NodeDefinition"

def readMetadata (v : Json) : Checked (String × String × String × String) :=
  record "NodeMetadata" (fun ms =>
    (fun type name description category => (type, name, description, category)) <$>
      field ms "type" string <*> field ms "name" string <*> fieldD ms ["description"] string "" <*>
      fieldD ms ["category"] string "utils") v

def read (v : Json) : Checked Definition :=
  record recordName (fun ms =>
    (fun (metadata : String × String × String × String) schema bindings examples preset =>
      Definition.mk metadata.1 metadata.2.1 metadata.2.2.1 metadata.2.2.2 schema bindings examples
        preset) <$>
      field ms "metadata" readMetadata <*>
      fieldD ms ["configSchema", "config_schema"] dictionary [] <*>
      fieldD ms ["bindings"] (list Requirement.read) [] <*>
      fieldD ms ["examples"] (list dictionary) [] <*>
      fieldD ms ["presetOutput", "preset_output"] (optional dictionary) none) v

def metadata (d : Definition) : Json :=
  .obj [("type", .str d.type), ("name", .str d.name), ("description", .str d.description),
    ("category", .str d.category)]

def toJson (d : Definition) : Json :=
  .obj ([("metadata", d.metadata), ("configSchema", .obj d.configSchema),
    ("bindings", .arr (d.bindings.map Requirement.toJson)),
    ("examples", .arr (d.examples.map .obj))] ++
    (d.presetOutput.map fun preset => ("presetOutput", Json.obj preset)).toList)

/-- A member of a value that must be an object, with a default when it is missing. -/
def memberOf (v : Json) (key : String) (default : Json) : Except Fault Json :=
  match v with
  | .obj ms => .ok ((Members.get? key ms).getD default)
  | _ => .error .notAnObject

/-- The default that the schema declares for a member of the configuration, or null. -/
def schemaDefault (d : Definition) (name : String) : Except Fault Json := do
  let properties ← memberOf (.obj d.configSchema) "properties" (.obj [])
  let property ← memberOf properties name (.obj [])
  memberOf property "default" .null

end Definition

/-- Definitions of different types. -/
structure Catalog where
  definitions : List Definition := []
  deriving Repr, Inhabited

namespace Catalog

/-- Replaces the definition of a type where it stands, or appends it. -/
def insert (d : Definition) : List Definition → List Definition
  | [] => [d]
  | e :: rest => if e.type = d.type then d :: rest else e :: insert d rest

def register (c : Catalog) (d : Definition) : Catalog := ⟨insert d c.definitions⟩

def get? (c : Catalog) (type : String) : Option Definition :=
  c.definitions.find? (fun d => d.type == type)

def has (c : Catalog) (type : String) : Bool := (c.get? type).isSome

/-- The default of a member of the configuration of a type; null for a type without a definition. -/
def schemaDefault (c : Catalog) (type name : String) : Except Fault Json :=
  match c.get? type with
  | some d => d.schemaDefault name
  | none => .ok .null

def sorted (c : Catalog) : List Definition :=
  c.definitions.mergeSort fun a b => decide (a.type ≤ b.type)

def types (c : Catalog) : List String := c.sorted.map (·.type)

/-- The catalog as a JSON value, the definitions in the order of their types. -/
def toJson (c : Catalog) : Json := .obj [("nodes", .arr (c.sorted.map Definition.toJson))]

theorem get?_register_self (c : Catalog) (d : Definition) :
    (c.register d).get? d.type = some d := by
  have h : ∀ ds, (insert d ds).find? (fun e => e.type == d.type) = some d := by
    intro ds
    induction ds with
    | nil => simp [insert]
    | cons e rest ih =>
        by_cases he : e.type = d.type
        · simp [insert, he]
        · simp [insert, he, ih]
  exact h c.definitions

end Catalog

end DurableFlow
