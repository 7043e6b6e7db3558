import DurableFlow.Json.Basic
import DurableFlow.Pattern.Reader

/-!
Schemas: rules for JSON values, read from JSON. A value that is not a well-formed schema is refused as
a whole, for the first fault that is found when its members are gone through in a fixed order. Names of
formats are taken as notes, and a reference names a part of the schema by the way to it from the root;
identifiers, which would let a reference name a part in another way, are taken as notes too. A reference
that leads nowhere makes the schema a bad one as soon as it is followed.
-/

namespace DurableFlow

/-- What a rule about a size counts: characters of a text, items of an array, members of an object. -/
inductive Sized where
  | text
  | items
  | members
  deriving DecidableEq, Repr

/-- The end at which a range is closed. -/
inductive Limit where
  | least
  | most
  deriving DecidableEq, Repr

mutual

/-- A schema allows everything, allows nothing, or is a list of rules in the order written. -/
inductive Schema where
  | always
  | never
  | rules (rs : List Rule)

/-- A rule of a schema. Where a message shows a part of the schema, the rule keeps that part, and where
it depends on other members of the schema, it keeps what it needs of them. -/
inductive Rule where
  | reference (target : String)
  | types (names : List String) (shown : Json)
  | enum (values : List Json)
  | const (value : Json)
  | size (what : Sized) (limit : Limit) (n : Nat)
  | bound (limit : Limit) (strict : Bool) (b : Json)
  | multipleOf (divisor : Json)
  | pattern (text : String) (p : Pattern)
  | required (names : List String)
  /-- With the member, these others are required. -/
  | needs (name : String) (others : List String)
  /-- With the member, the whole object passes the schema. -/
  | dependent (name : String) (s : Schema)
  | properties (ps : List (String × Schema))
  | matching (p : Pattern) (s : Schema)
  /-- Members whose names are not known and match none of the patterns, if there are any. -/
  | additional (s : Schema) (known : List String) (patterns : Option (List String))
  | eachName (s : Schema)
  | each (s : Schema)
  | positions (ss : List Schema)
  /-- Items behind the first ones, when their number can be told. -/
  | beyond (s : Schema) (count : Option Nat)
  | contains (s : Schema)
  | distinct
  | allOf (ss : List Schema)
  | anyOf (ss : List Schema)
  | oneOf (options : List (Json × Schema))
  | not (s : Schema) (shown : Json)
  | branch (test yes no : Schema)

end

namespace Schema

/-- What was read, or the faults found in the order in which they are found. -/
abbrev Read (α : Type) := Except (List Fault) α

def malformed {α : Type} : Read α := .error [.badSchema]

def ofOption {α : Type} : Option α → Read α
  | some a => .ok a
  | none => malformed

def both {α β : Type} : Read α → Read β → Read (α × β)
  | .ok a, .ok b => .ok (a, b)
  | .error i, .ok _ => .error i
  | .ok _, .error j => .error j
  | .error i, .error j => .error (i ++ j)

/-- Where one of several forms is allowed, all faults are looked for: one that stops the search counts
before the others. -/
def asOne {α : Type} (x : Read α) : Read α :=
  x.mapError fun faults => [(faults.find? (· ≠ .badSchema)).getD .badSchema]

/-! ### Rules that hold no schemas -/

def typeNames : List String :=
  ["array", "boolean", "integer", "null", "number", "object", "string"]

def typeName? : Json → Option String
  | .str s => if s ∈ typeNames then some s else none
  | _ => none

def texts? (items : List Json) : Option (List String) := items.mapM Json.string?

def allDistinct (names : List String) : Bool :=
  match names with
  | [] => true
  | x :: xs => !xs.contains x && allDistinct xs

/-- One type name, or some different ones. -/
def readTypes? (v : Json) : Option Rule :=
  match v with
  | .arr items =>
    match items.mapM typeName? with
    | some names => if names.isEmpty || !allDistinct names then none else some (.types names v)
    | none => none
  | _ => (typeName? v).map fun name => .types [name] v

/-- Different texts. -/
def distinctTexts? : Json → Option (List String)
  | .arr items =>
    match texts? items with
    | some names => if allDistinct names then some names else none
    | none => none
  | _ => none

def size? : Json → Option Nat
  | .int n => if 0 ≤ n then some n.toNat else none
  | .float x =>
    match x.truncate? with
    | some n => if x.isInteger && 0 ≤ n then some n.toNat else none
    | none => none
  | _ => none

def number? : Json → Option Json
  | .int n => some (.int n)
  | .float x => some (.float x)
  | _ => none

def divisor? : Json → Option Json
  | .int n => if 0 < n then some (.int n) else none
  | .float x =>
    match x.compareInt? 0 with
    | some .lt => none
    | some .eq => none
    | _ => some (.float x)
  | _ => none

def bool? : Json → Option Bool
  | .bool b => some b
  | _ => none

/-- A pattern, which is a text that reads as one. -/
def readPattern (v : Json) : Read Rule :=
  match v with
  | .str text => ((Pattern.parse text).mapError ([·])).map (.pattern text)
  | _ => malformed

/-- The members that limit a size. -/
def sizeMembers : List (String × Sized × Limit) :=
  [("minLength", .text, .least), ("maxLength", .text, .most), ("minItems", .items, .least),
   ("maxItems", .items, .most), ("minProperties", .members, .least),
   ("maxProperties", .members, .most)]

/-- The members that limit a number, and whether the limit itself is left out. -/
def boundMembers : List (String × Limit × Bool) :=
  [("minimum", .least, false), ("exclusiveMinimum", .least, true), ("maximum", .most, false),
   ("exclusiveMaximum", .most, true)]

/-- The members that are texts and make no rule. A reference counts for the schema as a whole. -/
def noteMembers : List String :=
  ["$id", "$schema", "$ref", "$comment", "title", "description", "format", "contentMediaType",
   "contentEncoding"]

/-- The rules of a member that holds no schemas. Members that are not known make no rule and are
never malformed. -/
def plainRule (key : String) (v : Json) : Read (List Rule) :=
  if key = "pattern" then (readPattern v).map ([·])
  else
    ofOption <|
      if key = "type" then (readTypes? v).map ([·])
      else if key = "required" then (distinctTexts? v).map fun names => [.required names]
      else if key = "enum" then v.items?.map fun values => [.enum values]
      else if key = "const" then some [.const v]
      else if key = "multipleOf" then (divisor? v).map fun d => [.multipleOf d]
      else if key = "uniqueItems" then (bool? v).map fun b => if b then [.distinct] else []
      else if key = "readOnly" then (bool? v).map fun _ => []
      else if key = "examples" then v.items?.map fun _ => []
      else if key ∈ noteMembers then v.string?.map fun _ => []
      else
        match sizeMembers.lookup key, boundMembers.lookup key with
        | some (what, limit), _ => (size? v).map fun n => [.size what limit n]
        | none, some (limit, strict) => (number? v).map fun b => [.bound limit strict b]
        | none, none => some []

/-! ### Rules that hold schemas -/

/-- What a rule may need of the other members of its schema: the members as they are written, and the
schemas for what passes a test and for what does not. -/
structure Siblings where
  members : Members
  yes : Schema := .always
  no : Schema := .always

def memberNames (v : Json) : List String :=
  match v with
  | .obj ms => ms.map (·.1)
  | _ => []

/-- The rule for the members that no other rule is about. -/
def additionalRule (beside : Siblings) (s : Schema) : Rule :=
  .additional s (((beside.members.get? "properties").map memberNames).getD [])
    ((beside.members.get? "patternProperties").map memberNames)

/-- The rule for the items behind those with a schema of their own. Where all items have one schema
there are none, and where that schema is a truth value their number cannot be told. -/
def beyondRule (beside : Siblings) (s : Schema) : List Rule :=
  match beside.members.get? "items" with
  | none => []
  | some (.obj _) => []
  | some (.arr items) => [.beyond s (some items.length)]
  | some _ => [.beyond s none]

def readPatterns : List String → Read (List Pattern)
  | [] => .ok []
  | text :: rest =>
    (both ((Pattern.parse text).mapError ([·])) (readPatterns rest)).map fun p => p.1 :: p.2

/-- The rules for the members whose names match patterns. -/
def matchingRules (v : Json) (named : Read (List (String × Schema))) : Read (List Rule) :=
  (both named (readPatterns (memberNames v))).map fun p =>
    List.zipWith (fun q pattern => .matching pattern q.2) p.1 p.2

def memberOrder : List String :=
  ["$id", "$schema", "$ref", "$comment", "title", "description", "readOnly", "examples", "multipleOf",
   "maximum", "exclusiveMaximum", "minimum", "exclusiveMinimum", "maxLength", "minLength", "pattern",
   "additionalItems", "items", "maxItems", "minItems", "uniqueItems", "contains", "maxProperties",
   "minProperties", "required", "additionalProperties", "definitions", "properties",
   "patternProperties", "dependencies", "propertyNames", "enum", "type", "format",
   "contentMediaType", "contentEncoding", "if", "then", "else", "allOf", "anyOf", "oneOf", "not"]

/-- Rules with the members they were read from: the rules in the order written, or the faults in the
order in which members are looked at. -/
def gather (read : List (String × Read (List Rule))) : Read (List Rule) :=
  let faultsOf (key : String) : List Fault :=
    read.flatMap fun m =>
      match m.2 with
      | .error faults => if m.1 = key then faults else []
      | .ok _ => []
  match memberOrder.flatMap faultsOf with
  | [] =>
    .ok (read.flatMap fun m =>
      match m.2 with
      | .ok rs => rs
      | .error _ => [])
  | faults => .error faults

/-- The rules that count: a reference stands for the whole schema, and its other members are only
looked at. -/
def governing (ms : Members) (rs : List Rule) : List Rule :=
  match ms.get? "$ref" with
  | some (.str target) => [.reference target]
  | _ => rs

/-- The rules of a member that holds schemas, from what is read from its value: one schema, named
schemas, a list of schemas, or rules for the members of an object. Other members are read by
themselves. -/
def ruleOf (beside : Siblings) (key : String) (v : Json) (one : Read Schema)
    (named : Read (List (String × Schema))) (listed : Read (List (Json × Schema)))
    (dependents : Read (List Rule)) : Read (List Rule) :=
  if key = "properties" then named.map fun ps => [.properties ps]
  else if key = "items" then
    asOne <|
      match v with
      | .arr _ => listed.map fun ss => [.positions (ss.map (·.2))]
      | _ => one.map fun s => [.each s]
  else if key = "patternProperties" then matchingRules v named
  else if key = "definitions" then named.map fun _ => []
  else if key = "dependencies" then dependents
  else if key = "additionalProperties" then one.map fun s => [additionalRule beside s]
  else if key = "additionalItems" then one.map (beyondRule beside)
  else if key = "propertyNames" then one.map fun s => [.eachName s]
  else if key = "contains" then one.map fun s => [.contains s]
  else if key = "not" then one.map fun s => [.not s v]
  else if key = "if" then one.map fun s => [.branch s beside.yes beside.no]
  else if key = "then" || key = "else" then one.map fun _ => []
  else if key = "allOf" then listed.map fun ss => [.allOf (ss.map (·.2))]
  else if key = "anyOf" then listed.map fun ss => [.anyOf (ss.map (·.2))]
  else if key = "oneOf" then listed.map fun options => [.oneOf options]
  else plainRule key v

mutual

def readAll : Json → Read Schema
  | .bool true => .ok .always
  | .bool false => .ok .never
  | .obj ms => (gather (readRules (readBranches ⟨ms, .always, .always⟩ ms) ms)).map fun rs =>
      .rules (governing ms rs)
  | _ => malformed

/-- Finds the schemas for what passes a test and for what does not. -/
def readBranches (beside : Siblings) : List (String × Json) → Siblings
  | [] => beside
  | (key, v) :: rest =>
    if key = "then" then { readBranches beside rest with yes := ((readAll v).toOption).getD .always }
    else if key = "else" then
      { readBranches beside rest with no := ((readAll v).toOption).getD .always }
    else readBranches beside rest

def readRules (beside : Siblings) : List (String × Json) → List (String × Read (List Rule))
  | [] => []
  | (key, v) :: rest =>
    (key, ruleOf beside key v (readAll v) (readNamed v) (readListed v) (readDependents v)) ::
      readRules beside rest

def readNamed : Json → Read (List (String × Schema))
  | .obj ms => readMembers ms
  | _ => malformed

/-- The items of an array as schemas; there must be one. -/
def readListed : Json → Read (List (Json × Schema))
  | .arr [] => malformed
  | .arr (v :: vs) => readItems (v :: vs)
  | _ => malformed

/-- The members of an object as rules for objects with a member of that name: other names, or a
schema. -/
def readDependents : Json → Read (List Rule)
  | .obj ms => readDependent ms
  | _ => malformed

def readMembers : List (String × Json) → Read (List (String × Schema))
  | [] => .ok []
  | (key, v) :: rest => (both (readAll v) (readMembers rest)).map fun p => ((key, p.1) :: p.2)

def readItems : List Json → Read (List (Json × Schema))
  | [] => .ok []
  | v :: rest => (both (readAll v) (readItems rest)).map fun p => ((v, p.1) :: p.2)

def readDependent : List (String × Json) → Read (List Rule)
  | [] => .ok []
  | (key, v) :: rest =>
    let here : Read Rule :=
      match v with
      | .arr _ => ofOption ((distinctTexts? v).map (.needs key))
      | _ => asOne ((readAll v).map (.dependent key))
    (both here (readDependent rest)).map fun p => p.1 :: p.2

end

def read (v : Json) : Except Fault Schema :=
  (readAll v).mapError fun faults => faults.headD .badSchema

end Schema

end DurableFlow
