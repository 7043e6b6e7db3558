import DurableFlow.Decimal.Reading
import DurableFlow.Json.Display
import DurableFlow.Json.Equal
import DurableFlow.Pattern.Match
import DurableFlow.Schema.Basic
import DurableFlow.Text.Split

/-!
Checking values against schemas. Every rule that a value breaks gives a violation with the path to
the value and a message; the violations of a schema are listed in the order of their paths, and at
one path in the order of the rules. A check that cannot go on leaves its fault among the violations,
and what stands behind the first fault is never looked at.
-/

namespace DurableFlow

/-- A step from a value to a part of it. -/
inductive PathStep where
  | key (name : String)
  | index (i : Nat)
  deriving DecidableEq, Repr

/-- The kind of a broken rule, with what advice about it needs, or the fault that stopped the check. -/
inductive BrokenRule where
  | required (name : String)
  | type (expected : Json) (found : Json)
  | minItems
  | minLength
  | other
  | stopped (f : Fault)
  deriving Repr

structure Violation where
  path : List PathStep
  message : String
  broken : BrokenRule
  deriving Repr

namespace Violation

def under (step : PathStep) (v : Violation) : Violation := { v with path := step :: v.path }

def fault? (v : Violation) : Option Fault :=
  match v.broken with
  | .stopped f => some f
  | _ => none

/-- Text behind the first part of a path. -/
def pathRest : List PathStep → String
  | [] => ""
  | .index i :: rest => "[" ++ toString i ++ "]" ++ pathRest rest
  | .key name :: rest => "." ++ name ++ pathRest rest

/-- The path as text, such as `nodes[0].type`. -/
def pathText (path : List PathStep) : String :=
  let text :=
    match path with
    | .key name :: rest => name ++ pathRest rest
    | other => pathRest other
  if text = "" then "root" else text

/-- Positions are ordered by number and names by their characters; a path comes before its
continuations. -/
def pathLe : List PathStep → List PathStep → Bool
  | [], _ => true
  | _ :: _, [] => false
  | .index i :: p, .index j :: q => if i = j then pathLe p q else i < j
  | .key a :: p, .key b :: q => if a = b then pathLe p q else a < b
  | .index _ :: _, .key _ :: _ => true
  | .key _ :: _, .index _ :: _ => false

end Violation

namespace Json

/-- The order of two numbers, if both are numbers and neither is undefined. -/
def compareNumbers? : Json → Json → Option Ordering
  | .int a, .int b => some (compare a b)
  | .int a, .float x => (x.compareInt? a).map Ordering.swap
  | .float x, .int b => x.compareInt? b
  | .float x, .float y => x.compare? y
  | _, _ => none

/-- Whether a number is a multiple of another. Where one of them is a floating point number, so is the
other; by such a divisor the quotient is rounded, unless it is too large for that. -/
def isMultipleOf (v d : Json) : Except Fault Bool :=
  match v, d with
  | .int n, .int k => .ok (n % k == 0)
  | .float x, .int k => do
    let y ← rounded k
    return x.isMultiple y
  | .int n, .float y => do
    let x ← rounded n
    byQuotient x y
  | .float x, .float y => byQuotient x y
  | _, _ => .ok true
where
  rounded (n : Int) : Except Fault Binary64 :=
    let x := Binary64.ofInt n
    if x.isFinite then .ok x else .error .tooLarge
  byQuotient (x y : Binary64) : Except Fault Bool :=
    match x.quotient y with
    | .nan => .error (.badValue "cannot convert float NaN to integer")
    | .infinite _ => if x.isFinite then .ok (x.isMultiple y) else .error .tooLarge
    | q => .ok q.isInteger

/-- Whether a value has the type of that name. A number without a fraction is an integer. -/
def hasType (v : Json) (name : String) : Bool :=
  match v with
  | .null => name == "null"
  | .bool _ => name == "boolean"
  | .int _ => name == "integer" || name == "number"
  | .float x => name == "number" || (name == "integer" && x.isInteger)
  | .str _ => name == "string"
  | .arr _ => name == "array"
  | .obj _ => name == "object"

def allDifferent : List Json → Bool
  | [] => true
  | v :: vs => !vs.any (same v) && allDifferent vs

end Json

namespace Schema

/-! ### Violations -/

def broken (message : String) (b : BrokenRule := .other) : List Violation := [⟨[], message, b⟩]

/-- The check ends here. -/
def stopped (f : Fault) : List Violation := broken "" (.stopped f)

def isNever : Schema → Bool
  | .never => true
  | _ => false

/-- Places the violations of a part below the step to it. A part that is not allowed at all counts at
the value it belongs to. -/
def descend (step : PathStep) (s : Schema) (found : List Violation) : List Violation :=
  match s with
  | .never => found
  | _ => found.map (Violation.under step)

/-- The fault that stopped a check, if one did. -/
def firstFault? (found : List Violation) : Option Fault := found.findSome? Violation.fault?

/-- Whether there are no violations, where all of them are looked at. -/
def isClear (found : List Violation) : Except Fault Bool :=
  match firstFault? found with
  | some f => .error f
  | none => .ok found.isEmpty

/-- Whether there are no violations, where only the first one is looked at. -/
def startsClear (found : List Violation) : Except Fault Bool := isClear (found.take 1)

/-- Whether one of some checks found nothing; those behind it are not looked at. -/
def anyClear (clear : List Violation → Except Fault Bool) : List (List Violation) → Except Fault Bool
  | [] => .ok false
  | found :: rest =>
    match clear found with
    | .error f => .error f
    | .ok true => .ok true
    | .ok false => anyClear clear rest

/-- The options under which nothing was found. Once there is one, of the others only the first violation
is looked at. -/
def clearOptions (clear : List Violation → Except Fault Bool) :
    List (Json × List Violation) → Except Fault (List Json)
  | [] => .ok []
  | (shown, found) :: rest =>
    match clear found with
    | .error f => .error f
    | .ok true => (clearOptions startsClear rest).map (shown :: ·)
    | .ok false => clearOptions clear rest

/-! ### Rules about one value -/

def sizeOf? : Sized → Json → Option Nat
  | .text, .str s => some s.length
  | .items, .arr items => some items.length
  | .members, .obj ms => some ms.length
  | _, _ => none

def tooFew (what : Sized) (n : Nat) : String :=
  if n = 1 then "should be non-empty"
  else if what = .members then "does not have enough properties" else "is too short"

def tooMany (what : Sized) (n : Nat) : String :=
  if n = 0 then "is expected to be empty"
  else if what = .members then "has too many properties" else "is too long"

def sizeRule : Sized → Limit → BrokenRule
  | .text, .least => .minLength
  | .items, .least => .minItems
  | _, _ => .other

/-- A limit that the size of a value must keep. -/
def checkSize (what : Sized) (limit : Limit) (n : Nat) (v : Json) : List Violation :=
  match sizeOf? what v with
  | none => []
  | some size =>
    match limit with
    | .least =>
      if size < n then broken (v.display ++ " " ++ tooFew what n) (sizeRule what limit) else []
    | .most => if n < size then broken (v.display ++ " " ++ tooMany what n) else []

/-- Whether a number that compares like that is out of bounds. -/
def breaksBound (limit : Limit) (strict : Bool) (o : Ordering) : Bool :=
  match limit with
  | .least => o == .lt || (strict && o == .eq)
  | .most => o == .gt || (strict && o == .eq)

def boundText : Limit → Bool → String
  | .least, false => " is less than the minimum of "
  | .least, true => " is less than or equal to the minimum of "
  | .most, false => " is greater than the maximum of "
  | .most, true => " is greater than or equal to the maximum of "

/-- A bound that a number must keep. -/
def checkBound (limit : Limit) (strict : Bool) (b v : Json) : List Violation :=
  match Json.compareNumbers? v b with
  | some o =>
    if breaksBound limit strict o then broken (v.display ++ boundText limit strict ++ b.display) else []
  | none => []

def checkMultiple (d v : Json) : List Violation :=
  match Json.isMultipleOf v d with
  | .error f => stopped f
  | .ok true => []
  | .ok false => broken (v.display ++ " is not a multiple of " ++ d.display)

/-- Things that are not allowed, with what is said of them. -/
def unexpected (shown : List String) : String :=
  ", ".intercalate shown ++ (if shown.length = 1 then " was" else " were") ++ " unexpected)"

def sorted (names : List String) : List String := names.mergeSort fun a b => decide (a ≤ b)

/-- The names of an object that are not known and match none of the patterns, which are read as the
alternatives of one pattern. -/
def unknownNames (known patterns : List String) (ms : Members) : Except Fault (List String) :=
  let others := (ms.map (·.1)).filter fun name => !known.contains name
  let joined := "|".intercalate patterns
  if others.isEmpty || joined = "" then .ok others
  else (Pattern.parse joined).map fun p => others.filter fun name => !p.search name

/-- What is said of unknown names, where the schema for their members allows none. -/
def noAdditional (s : Schema) (patterns : Option (List String)) (others : List String) :
    List Violation :=
  if !s.isNever || others.isEmpty then []
  else
    let shown := (sorted others).map Json.displayString
    match patterns with
    | some ps =>
      broken (", ".intercalate shown ++ (if others.length = 1 then " does" else " do") ++
        " not match any of the regexes: " ++ ", ".intercalate ((sorted ps).map Json.displayString))
    | none => broken ("Additional properties are not allowed (" ++ unexpected shown)

/-- What is said of further items, where the schema for them allows none. -/
def noItems (s : Schema) (items : List Json) : List Violation :=
  if !s.isNever || items.isEmpty then []
  else broken ("Additional items are not allowed (" ++ unexpected (items.map Json.display))

/-- What is found in a part, unless all that is said of it is that it is not allowed. -/
def whereAllowed (step : PathStep) (s : Schema) (found : List Violation) : List Violation :=
  if s.isNever then [] else descend step s found

def checkPattern (text : String) (p : Pattern) (v : Json) : List Violation :=
  match v with
  | .str s => if p.search s then [] else broken (v.display ++ " does not match " ++ Json.displayString text)
  | _ => []

/-- What is found when a test is passed and when it is not. -/
def whenClear (test : Except Fault Bool) (yes no : List Violation) : List Violation :=
  match test with
  | .error f => stopped f
  | .ok true => yes
  | .ok false => no

/-- What is said of a value unless it satisfies exactly one option. -/
def onlyOption (v : Json) : Except Fault (List Json) → List Violation
  | .error f => stopped f
  | .ok [] => broken (v.display ++ " is not valid under any of the given schemas")
  | .ok [_] => []
  | .ok (first :: more) =>
    broken (v.display ++ " is valid under each of " ++
      ", ".intercalate ((more ++ [first]).map Json.display))

/-! ### Schemas -/

/-- What the schema that a reference leads to finds in a value. -/
abbrev Follow := String → Json → List Violation

/-- What is found in the members of an object; other values have none. -/
def onMembers (v : Json) (f : Members → List Violation) : List Violation :=
  match v with
  | .obj ms => f ms
  | _ => []

/-- What is found in the items of an array; other values have none. -/
def onItems (v : Json) (f : List Json → List Violation) : List Violation :=
  match v with
  | .arr items => f items
  | _ => []

@[simp] theorem onMembers_obj (ms : Members) (f : Members → List Violation) :
    onMembers (.obj ms) f = f ms := rfl

@[simp] theorem onItems_arr (items : List Json) (f : List Json → List Violation) :
    onItems (.arr items) f = f items := rfl

/-- One violation for each name that is missing from an object. -/
def missing (names : List String) (ms : Members) (said : String → List Violation) : List Violation :=
  (names.filter fun name => !Members.has name ms).flatMap said

mutual

/-- The violations of a schema by a value, in the order of the rules. -/
def check (follow : Follow) : Schema → Json → List Violation
  | .always, _ => []
  | .never, v => broken ("False schema does not allow " ++ v.display)
  | .rules rs, v => checkRules follow rs v

def checkRules (follow : Follow) : List Rule → Json → List Violation
  | [], _ => []
  | r :: rs, v => checkRule follow r v ++ checkRules follow rs v

def checkRule (follow : Follow) : Rule → Json → List Violation
  | .reference target, v => follow target v
  | .types names shown, v =>
    if names.any v.hasType then []
    else
      broken (v.display ++ " is not of type " ++ ", ".intercalate (names.map Json.displayString))
        (.type shown v)
  | .enum values, v =>
    if values.any (fun w => Json.same w v) then []
    else broken (v.display ++ " is not one of " ++ (Json.arr values).display)
  | .const value, v =>
    if Json.same v value then [] else broken (value.display ++ " was expected")
  | .size what limit n, v => checkSize what limit n v
  | .bound limit strict b, v => checkBound limit strict b v
  | .multipleOf d, v => checkMultiple d v
  | .pattern text p, v => checkPattern text p v
  | .required names, v =>
    onMembers v fun ms => missing names ms fun name =>
      broken (Json.displayString name ++ " is a required property") (.required name)
  | .needs name others, v =>
    onMembers v fun ms =>
      if Members.has name ms then
        missing others ms fun other =>
          broken (Json.displayString other ++ " is a dependency of " ++ Json.displayString name)
      else []
  | .dependent name s, v =>
    onMembers v fun ms => if Members.has name ms then check follow s v else []
  | .properties ps, v => onMembers v fun ms => checkProperties follow ps ms
  | .matching p s, v =>
    onMembers v fun ms =>
      (ms.filter fun m => p.search m.1).flatMap fun m =>
        descend (.key m.1) s (check follow s m.2)
  | .additional s known patterns, v =>
    onMembers v fun ms =>
      match unknownNames known (patterns.getD []) ms with
      | .error f => stopped f
      | .ok others =>
        noAdditional s patterns others ++
          (ms.filter fun m => others.contains m.1).flatMap fun m =>
            whereAllowed (.key m.1) s (check follow s m.2)
  | .eachName s, v => onMembers v fun ms => ms.flatMap fun m => check follow s (.str m.1)
  | .each s, v =>
    onItems v fun items => items.zipIdx.flatMap fun p => descend (.index p.2) s (check follow s p.1)
  | .positions ss, v => onItems v fun items => checkPositions follow ss 0 items
  | .beyond s (some n), v =>
    onItems v fun items =>
      noItems s (items.drop n) ++
        (items.zipIdx.drop n).flatMap fun p => whereAllowed (.index p.2) s (check follow s p.1)
  | .beyond _ none, v => onItems v fun _ => stopped .wrongType
  | .contains s, v =>
    onItems v fun items =>
      whenClear (anyClear startsClear (items.map fun item => check follow s item)) [] <|
        broken ("None of " ++ v.display ++ " are valid under the given schema")
  | .distinct, v =>
    onItems v fun items =>
      if Json.allDifferent items then [] else broken (v.display ++ " has non-unique elements")
  | .allOf ss, v => checkAll follow ss v
  | .anyOf ss, v =>
    whenClear (anyClear isClear (checkEach follow ss v)) [] <|
      broken (v.display ++ " is not valid under any of the given schemas")
  | .oneOf options, v => onlyOption v (clearOptions isClear (checkOptions follow options v))
  | .not s shown, v =>
    whenClear (startsClear (check follow s v))
      (broken (v.display ++ " should not be valid under " ++ shown.display)) []
  | .branch test yes no, v =>
    whenClear (startsClear (check follow test v)) (check follow yes v) (check follow no v)

def checkProperties (follow : Follow) : List (String × Schema) → List (String × Json) → List Violation
  | [], _ => []
  | (name, s) :: ps, ms =>
    (match Members.get? name ms with
      | some v => descend (.key name) s (check follow s v)
      | none => []) ++ checkProperties follow ps ms

def checkPositions (follow : Follow) : List Schema → Nat → List Json → List Violation
  | [], _, _ => []
  | _, _, [] => []
  | s :: ss, i, v :: vs =>
    descend (.index i) s (check follow s v) ++ checkPositions follow ss (i + 1) vs

def checkAll (follow : Follow) : List Schema → Json → List Violation
  | [], _ => []
  | s :: ss, v => check follow s v ++ checkAll follow ss v

/-- What each of some schemas finds in a value. -/
def checkEach (follow : Follow) : List Schema → Json → List (List Violation)
  | [], _ => []
  | s :: ss, v => check follow s v :: checkEach follow ss v

def checkOptions (follow : Follow) : List (Json × Schema) → Json → List (Json × List Violation)
  | [], _ => []
  | (shown, s) :: options, v => (shown, check follow s v) :: checkOptions follow options v

end

/-! ### References -/

/-- The part of a value that some steps lead to. -/
def part? : List String → Json → Option Json
  | [], v => some v
  | step :: steps, .obj ms => (Members.get? step ms).bind (part? steps)
  | step :: steps, .arr items =>
    match Decimal.readInt step with
    | .ok (.ofNat i) => items[i]?.bind (part? steps)
    | _ => none
  | _, _ => none

/-- A step with its escapes resolved. -/
def unescape : List Char → List Char
  | '~' :: '1' :: cs => '/' :: unescape cs
  | '~' :: '0' :: cs => '~' :: unescape cs
  | c :: cs => c :: unescape cs
  | [] => []

/-- The part of the root that a reference names, by the way to it from there. A way with percent signs, or
to another document, is not gone. -/
def target? (root : Json) (target : String) : Option Json :=
  match target.toList with
  | [] => some root
  | ['#'] => some root
  | '#' :: '/' :: way =>
    if way.contains '%' then none
    else part? ((Text.splitChars '/' way).map fun step => String.ofList (unescape step)) root
  | _ => none

/-- For schemas without references. -/
def noReferences : Follow := fun _ _ => stopped .badSchema

/-- How many references are followed inside one another. -/
def maxReferences : Nat := 150

/-- Follows references in a schema, no more than so many inside one another. -/
def follow (root : Json) : Nat → Follow
  | 0, _, _ => stopped (.tooDeep "")
  | left + 1, target, v =>
    match (target? root target).map read with
    | some (.ok s) => check (follow root left) s v
    | some (.error f) => stopped f
    | none => stopped .badSchema

/-- What the schema read from a value finds. -/
def references (root : Json) : Follow := follow root maxReferences

/-- Violations in the order of their paths. -/
def inOrder (found : List Violation) : List Violation :=
  found.mergeSort fun a b => Violation.pathLe a.path b.path

/-- Something that checks a value against a schema, both as they are written. -/
abbrev Validator := (schema value : Json) → Except Fault (List Violation)

def validate : Validator := fun root v => do
  let s ← read root
  let found := check (references root) s v
  match firstFault? found with
  | some f => .error f
  | none => return found

end Schema

end DurableFlow
