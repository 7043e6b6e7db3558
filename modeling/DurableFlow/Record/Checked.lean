import DurableFlow.Json.Basic
import DurableFlow.Record.Numeral

/-!
Reading records field by field. All fields are read even when some of them have issues, so that the
issues of a record are listed together, in the order of its fields. Numbers and truth values may also
be given as texts and as each other where nothing is lost.
-/

namespace DurableFlow

/-- A record that was read, or the issues found; or the value could not even be examined. -/
inductive Checked (α : Type) where
  | ok (a : α)
  | issues (found : List Issue)
  | stopped
  deriving Repr

namespace Checked

variable {α β : Type}

protected def map (f : α → β) : Checked α → Checked β
  | ok a => ok (f a)
  | issues found => issues found
  | stopped => stopped

protected def seq (f : Checked (α → β)) (x : Checked α) : Checked β :=
  match f, x with
  | ok f, ok a => ok (f a)
  | stopped, _ => stopped
  | _, stopped => stopped
  | issues i, issues j => issues (i ++ j)
  | issues i, ok _ => issues i
  | ok _, issues j => issues j

instance : Applicative Checked where
  pure := ok
  map := Checked.map
  seq f x := Checked.seq f (x ())

def issue (kind : IssueKind) : Checked α := issues [⟨[], kind⟩]

/-- Reads further when the value is good. -/
def andThen (x : Checked α) (f : α → Checked β) : Checked β :=
  match x with
  | ok a => f a
  | issues found => issues found
  | stopped => stopped

/-- Places the issues below a field. -/
def under (name : String) : Checked α → Checked α
  | ok a => ok a
  | issues found => issues (found.map (Issue.under name))
  | stopped => stopped

/-- Reads the items of a list, each below its position. -/
def itemsFrom (read : Json → Checked α) (start : Nat) : List Json → Checked (List α)
  | [] => ok []
  | v :: vs =>
    Checked.seq (Checked.map List.cons (under (toString start) (read v)))
      (itemsFrom read (start + 1) vs)

def list (read : Json → Checked α) : Json → Checked (List α)
  | .arr items => itemsFrom read 0 items
  | _ => issue .listExpected

def string : Json → Checked String
  | .str s => ok s
  | _ => issue .stringExpected

def dictionary : Json → Checked Members
  | .obj ms => ok ms
  | _ => issue .dictionaryExpected

def record (name : String) (read : Members → Checked α) : Json → Checked α
  | .obj ms => read ms
  | _ => issue (.recordExpected name)

def optional (read : Json → Checked α) : Json → Checked (Option α)
  | .null => ok none
  | v => Checked.map some (read v)

def choice (choices : List String) : Json → Checked String
  | .str s => if s ∈ choices then ok s else issue (.choiceExpected choices)
  | _ => issue (.choiceExpected choices)

/-- Texts for yes and no, in any case of letters. -/
def boolText? (s : String) : Option Bool :=
  let word := String.ofList (s.toList.map Decimal.asciiLowerChar)
  if word ∈ ["1", "t", "y", "yes", "on", "true"] then some true
  else if word ∈ ["0", "f", "n", "no", "off", "false"] then some false
  else none

/-- One for yes and zero for no; a number that does not fit in a machine word is of the wrong kind. -/
def boolInt (n : Int) : Checked Bool :=
  if n = 0 then ok false
  else if n = 1 then ok true
  else if n = n.bmod (Nat.pow 2 64) then issue .booleanText
  else issue .booleanExpected

/-- A floating point number stands for the whole number that it is, if it lies inside the bounds of a
machine word. -/
def boolFloat (x : Binary64) : Checked Bool :=
  match x.truncate? with
  | some n => if x.isInteger && n.natAbs < Nat.pow 2 63 then boolInt n else issue .booleanExpected
  | none => issue .booleanExpected

def bool : Json → Checked Bool
  | .bool b => ok b
  | .str s =>
    match boolText? s with
    | some b => ok b
    | none => issue .booleanText
  | .int n => boolInt n
  | .float x => boolFloat x
  | _ => issue .booleanExpected

/-- A whole number given as a floating point number must fit in a machine word. -/
def floatInt (x : Binary64) : Checked Int :=
  match x.truncate? with
  | none => issue .finiteExpected
  | some n =>
    if !x.isInteger then issue .integerFraction
    else if n.natAbs < Nat.pow 2 63 then ok n
    else issue .integerSize

def int : Json → Checked Int
  | .int n => ok n
  | .bool b => ok (if b then 1 else 0)
  | .str s =>
    match Numeral.int s with
    | .ok n => ok n
    | .error kind => issue kind
  | .float x => floatInt x
  | _ => issue .integerExpected

def above (bound n : Int) : Checked Int := if bound < n then ok n else issue (.greaterThan bound)

def notBelow (bound n : Int) : Checked Int := if bound ≤ n then ok n else issue (.atLeast bound)

def number : Json → Checked Json
  | .float x => ok (.float x)
  | .int n =>
    let x := Binary64.ofInt n
    if x.isFinite then ok (.float x) else issue .numberExpected
  | .bool b => ok (.float (Binary64.ofInt (if b then 1 else 0)))
  | .str s =>
    match Numeral.float? s with
    | some x => ok (.float x)
    | none => issue .numberText
  | _ => issue .numberExpected

/-- A field under the first of its names that is present; the names are tried in order. -/
def fieldOr (ms : Members) (names : List String) (read : Json → Checked α) (absent : Checked α) :
    Checked α :=
  match names.find? (fun name => Members.has name ms) with
  | some name => under name (read ((Members.get? name ms).getD .null))
  | none => absent

/-- A field that may be left out. -/
def fieldD (ms : Members) (names : List String) (read : Json → Checked α) (default : α) :
    Checked α :=
  fieldOr ms names read (ok default)

/-- A field that must be present. -/
def field (ms : Members) (name : String) (read : Json → Checked α) : Checked α :=
  fieldOr ms [name] read (under name (issue .missing))

/-- The members that no field took: those under other names, and those under a second name of a field
whose first name is present. -/
def extras (ms : Members) (fields : List (List String)) : Members :=
  ms.filter fun m =>
    fields.all fun names => names.find? (fun name => Members.has name ms) ≠ some m.1

end Checked

end DurableFlow
