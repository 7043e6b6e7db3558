import DurableFlow.Graph.Basic
import DurableFlow.Text.Blank
import DurableFlow.Text.Digit

/-!
Step names. Free text is turned into an identifier in camel case, and every node of a graph gets an
identifier of its own; a name that is taken gets a number behind it.
-/

namespace DurableFlow.Step

/-- The words of the target language that cannot be names. -/
def reservedWords : List String :=
  ["await", "break", "case", "catch", "class", "const", "continue", "debugger", "default", "delete",
   "do", "else", "enum", "export", "extends", "false", "finally", "for", "function", "if",
   "implements", "import", "in", "instanceof", "interface", "let", "new", "null", "package",
   "private", "protected", "public", "return", "static", "super", "switch", "this", "throw", "true",
   "try", "typeof", "var", "void", "while", "with", "yield", "arguments", "eval", "undefined"]

def toLower (c : Char) : Char := if Text.isAsciiUpper c then Char.ofNat (c.toNat + 32) else c

def toUpper (c : Char) : Char := if Text.isAsciiLower c then Char.ofNat (c.toNat - 32) else c

/-- Whether a word has capitals and no small letters. -/
def isAcronym (word : List Char) : Bool :=
  word.any Text.isAsciiUpper && !word.any Text.isAsciiLower

def mapHead (f : Char → Char) : List Char → List Char
  | [] => []
  | c :: cs => f c :: cs

/-- A word inside an identifier: an acronym loses its capitals, and the head letter is small in the
first word and a capital in the others. -/
def camelWord (first : Bool) (word : List Char) : List Char :=
  let word := if isAcronym word then word.map toLower else word
  mapHead (if first then toLower else toUpper) word

def camelWords : List (List Char) → List Char
  | [] => []
  | word :: rest => camelWord true word ++ rest.flatMap (camelWord false)

/-- An identifier does not start with a digit. -/
def startWithLetter (cs : List Char) : List Char :=
  match cs with
  | [] => []
  | c :: _ => if Text.isAsciiDigit c then "step".toList ++ mapHead toUpper cs else cs

def avoidReserved (s : String) : String := if s ∈ reservedWords then s ++ "Step" else s

def identifier (s : String) : String :=
  match Text.runs Text.isAsciiWord s.toList with
  | [] => "step"
  | words => avoidReserved (String.ofList (startWithLetter (camelWords words)))

def base (n : Node) : String :=
  identifier (firstGiven [n.data.stepName.getD "", n.data.label.getD "", n.type, "step"])

/-- The first of `base`, then `base` with `counter` and the numbers after it, that is not taken. -/
def freshFrom (used : List String) (base : String) : (fuel counter : Nat) → String
  | 0, counter => base ++ toString counter
  | fuel + 1, counter =>
    if base ++ toString counter ∈ used then freshFrom used base fuel (counter + 1)
    else base ++ toString counter

/-- A name that is not taken. Among one more numbers than there are taken names, one is free. -/
def fresh (used : List String) (base : String) : String :=
  if base ∈ used then freshFrom used base used.length 2 else base

/-- Names the nodes one after the other, after those that are already named. -/
def namesFrom (named : List (String × String)) : List Node → List (String × String)
  | [] => named
  | n :: ns =>
    if named.any (fun p => p.1 == n.id) then namesFrom named ns
    else namesFrom (named ++ [(n.id, fresh (named.map (·.2)) (base n))]) ns

/-- The step name of every node id, in the order of declaration. -/
def names (g : Graph) : List (String × String) := namesFrom [] g.nodes

end DurableFlow.Step
