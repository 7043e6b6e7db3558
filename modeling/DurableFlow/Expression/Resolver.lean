import DurableFlow.Expression.Path
import DurableFlow.Expression.Template
import DurableFlow.Json.Display
import DurableFlow.Json.Writer

/-!
Resolving references. A reference `state.<id>.<path>` reads what the node with that id recorded, by
default its output; any other reference reads the result of a step if it starts with a step name, and
is taken for a node id otherwise.
-/

namespace DurableFlow

/-- The variable that holds what each node recorded, by node id. -/
def stateVariable : String := "_workflowState"

/-- The variable that holds the result of each step, by step name. -/
def resultsVariable : String := "_workflowResults"

/-- The state entry under a key. -/
def stateEntryAt (key : Json) : String := stateVariable ++ "[" ++ key.compact ++ "]"

def stateEntry (id : String) : String := stateEntryAt (.str id)

/-- Text between braces, with a space on either side. -/
def braced (s : String) : String := "\x7b " ++ s ++ " \x7d"

/-- Knows the names of the steps of one graph. -/
structure Resolver where
  steps : List String

namespace Resolver

/-- Reads the recorded state of a node; without a path, its output. -/
def stateAccessor (id : String) (path : List String) : String :=
  stateEntry id ++ Path.render (if path.isEmpty then ["output"] else path)

def reference (r : Resolver) (inner : String) : String :=
  let cs := Text.trimChars inner.toList
  match Text.after? "state.".toList cs with
  | some rest =>
    match (Text.splitChars '.' rest).map String.ofList with
    | [] => stateAccessor "" []
    | id :: path => stateAccessor id path
  | none =>
    match (Text.splitChars '.' cs).map String.ofList with
    | [] => stateAccessor "" []
    | head :: path =>
      if head ∈ r.steps then resultsVariable ++ "." ++ head ++ Path.render path
      else stateAccessor head path

/-- Plain characters inside a template literal. -/
def escapeText : List Char → List Char
  | [] => []
  | '$' :: '\x7b' :: cs => '\\' :: '$' :: '\x7b' :: escapeText cs
  | c :: cs =>
    (if c = '\\' then ['\\', '\\']
     else if c = '`' then ['\\', '`']
     else if c = '\n' then ['\\', 'n']
     else if c = '\r' then ['\\', 'r']
     else [c]) ++ escapeText cs

def literalPiece (r : Resolver) : Piece → String
  | .text cs => String.ofList (escapeText cs)
  | .ref inner => "$\x7b" ++ r.reference (String.ofList inner) ++ "\x7d"

def codePiece (r : Resolver) : Piece → String
  | .text cs => String.ofList cs
  | .ref inner => r.reference (String.ofList inner)

/-- Replaces the references in code that is used as written. -/
def code (r : Resolver) (s : String) : String :=
  String.join ((Template.pieces s.toList).map r.codePiece)

/-- A text as an expression: a quoted text without references, the accessor alone for a single
reference, and a template literal for a mixture. -/
def string (r : Resolver) (s : String) : String :=
  match Template.pieces s.toList with
  | [.ref inner] => r.reference (String.ofList inner)
  | pieces =>
    if pieces.any Template.isRef then
      "`" ++ String.join (pieces.map r.literalPiece) ++ "`"
    else Json.quote s

mutual

/-- Any value as an expression, with the references in its texts resolved at every depth; there is no limit
on nesting or digits here. -/
def value (r : Resolver) : Json → String
  | .str s => r.string s
  | .obj [] => "\x7b\x7d"
  | .obj (m :: ms) => braced (", ".intercalate (valueMembers r (m :: ms)))
  | .arr items => "[" ++ ", ".intercalate (valueItems r items) ++ "]"
  | v => Json.compact v

def valueItems (r : Resolver) : List Json → List String
  | [] => []
  | v :: vs => value r v :: valueItems r vs

def valueMembers (r : Resolver) : List (String × Json) → List String
  | [] => []
  | (k, v) :: ms => (Json.quote k ++ ": " ++ value r v) :: valueMembers r ms

end

/-- A value given with its kind: an expression is used as code, a variable is a reference, and
anything else is a literal. The value stands under `key`, or else under `content`. -/
def source (r : Resolver) (key : String) (ms : Members) : String :=
  let raw := (ms.get? key).getD ((ms.get? "content").getD .null)
  match ms.get? "type", raw with
  | some (.str "expression"), .null => "undefined"
  | some (.str "expression"), .str "" => "undefined"
  | some (.str "expression"), v => r.code v.plainText
  | some (.str "variable"), .str s => if Template.hasRefs s then r.string s else r.reference s
  | _, v => r.value v

end Resolver

end DurableFlow
