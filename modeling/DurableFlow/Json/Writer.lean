import DurableFlow.Decimal.Shortest
import DurableFlow.Json.Basic
import DurableFlow.Json.Quoted
import DurableFlow.Json.Reader

/-!
Writing JSON: on one line, with a space after each comma and colon, or spread over indented lines. The
limits of the reader hold for a text that is written to be read again. A value on one line is a part of
some code, and has no limits.
-/

namespace DurableFlow.Json

/-- Numbers that are not finite have names of their own. -/
def specialNames : Decimal.SpecialNames where
  nan := "NaN"
  infinity := "Infinity"

def floatText (x : Binary64) : String := Decimal.text specialNames x

def boolText (b : Bool) : String := if b then "true" else "false"

def openBrace : String := "\x7b"

def closeBrace : String := "\x7d"

mutual

/-- The value on one line. -/
def compact : Json → String
  | .null => "null"
  | .bool b => boolText b
  | .int n => toString n
  | .float x => floatText x
  | .str s => quote s
  | .arr items => "[" ++ ", ".intercalate (compactItems items) ++ "]"
  | .obj ms => openBrace ++ ", ".intercalate (compactMembers ms) ++ closeBrace

def compactItems : List Json → List String
  | [] => []
  | v :: vs => compact v :: compactItems vs

def compactMembers : List (String × Json) → List String
  | [] => []
  | (k, v) :: ms => (quote k ++ ": " ++ compact v) :: compactMembers ms

end

def breakAt (depth : Nat) : String := "\n" ++ String.ofList (List.replicate (2 * depth) ' ')

mutual

def prettyAt (depth : Nat) : Json → String
  | .null => "null"
  | .bool b => boolText b
  | .int n => toString n
  | .float x => floatText x
  | .str s => quote s
  | .arr [] => "[]"
  | .arr (v :: vs) =>
    "[" ++ breakAt (depth + 1) ++
      ("," ++ breakAt (depth + 1)).intercalate (prettyItems (depth + 1) (v :: vs)) ++
      breakAt depth ++ "]"
  | .obj [] => openBrace ++ closeBrace
  | .obj (m :: ms) =>
    openBrace ++ breakAt (depth + 1) ++
      ("," ++ breakAt (depth + 1)).intercalate (prettyMembers (depth + 1) (m :: ms)) ++
      breakAt depth ++ closeBrace

def prettyItems (depth : Nat) : List Json → List String
  | [] => []
  | v :: vs => prettyAt depth v :: prettyItems depth vs

def prettyMembers (depth : Nat) : List (String × Json) → List String
  | [] => []
  | (k, v) :: ms => (quote k ++ ": " ++ prettyAt depth v) :: prettyMembers depth ms

end

/-- The value over several lines, each level indented by two spaces. -/
def pretty (v : Json) : String := prettyAt 0 v

def numberTooLong : Fault :=
  .badValue ("Exceeds the limit (" ++ toString Decimal.maxDigits ++
    " digits) for integer string conversion; use sys.set_int_max_str_digits() to increase the limit")

def nestedTooDeep : Fault := .tooDeep "maximum recursion depth exceeded"

mutual

/-- Refuses a value that passes a limit where that many arrays and objects may still be opened. The
first part that passes one is what counts. -/
def checkAt : (depth : Nat) → Json → Except Fault Unit
  | _, .int n => if n.natAbs < Nat.pow 10 Decimal.maxDigits then .ok () else .error numberTooLong
  | 0, .arr _ => .error nestedTooDeep
  | 0, .obj _ => .error nestedTooDeep
  | depth + 1, .arr items => checkItems depth items
  | depth + 1, .obj ms => checkMembers depth ms
  | _, _ => .ok ()

def checkItems (depth : Nat) : List Json → Except Fault Unit
  | [] => .ok ()
  | v :: vs => do
    checkAt depth v
    checkItems depth vs

def checkMembers (depth : Nat) : List (String × Json) → Except Fault Unit
  | [] => .ok ()
  | (_, v) :: ms => do
    checkAt depth v
    checkMembers depth ms

end

/-- The text of a value within the limits, over several lines. -/
def write (v : Json) : Except Fault String := do
  checkAt maxDepth v
  return pretty v

end DurableFlow.Json
