import DurableFlow.Json.Basic
import DurableFlow.Json.Writer

/-!
When two JSON values are equal, and when two of them are the same key of a table. A whole number and
the floating point number of the same value are equal in both senses; truth values are numbers only
as keys.
-/

namespace DurableFlow.Json

/-- Whether two numbers are equal, where a whole number may also be written with a point. An undefined
number is equal to itself. -/
def numberEq : Json → Json → Bool
  | .int a, .int b => a == b
  | .int a, .float x => x.compareInt? a == some .eq
  | .float x, .int a => x.compareInt? a == some .eq
  | .float .nan, .float .nan => true
  | .float x, .float y => x.compare? y == some .eq
  | _, _ => false

mutual

/-- Whether two values are equal; a truth value is equal to no number. -/
def same : Json → Json → Bool
  | .null, .null => true
  | .bool a, .bool b => a == b
  | .str a, .str b => a == b
  | .arr xs, .arr ys => sameItems xs ys
  | .obj ms, .obj ns => ms.length == ns.length && sameMembers ms ns
  | a, b => numberEq a b

def sameItems : List Json → List Json → Bool
  | [], [] => true
  | a :: xs, b :: ys => same a b && sameItems xs ys
  | _, _ => false

def sameMembers : List (String × Json) → List (String × Json) → Bool
  | [], _ => true
  | (k, v) :: ms, ns =>
    (match Members.get? k ns with
      | some w => same v w
      | none => false) && sameMembers ms ns

end

/-- Whether two values are one key: truth values count as the numbers zero and one. -/
def sameKey (a b : Json) : Bool :=
  let asNumber : Json → Json
    | .bool b => .int (if b then 1 else 0)
    | v => v
  same (asNumber a) (asNumber b)

/-- Sets the value of a key where it stands, or appends it. The key keeps the form in which it came
first. -/
def setKey (key value : Json) : List (Json × Json) → List (Json × Json)
  | [] => [(key, value)]
  | (k, v) :: rest => if sameKey k key then (k, value) :: rest else (k, v) :: setKey key value rest

/-- A key as the name of a member in written JSON. -/
def keyText : Json → String
  | .str s => s
  | v => v.compact

end DurableFlow.Json
