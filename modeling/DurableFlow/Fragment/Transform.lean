import DurableFlow.Fragment.Body

/-!
Nodes that reshape data with code of their own. The free names `input` and `data` stand for the input
of the node; a lone expression is used as it is, and statements are put into a function.
-/

namespace DurableFlow.Fragment

/-- Whether a name may start here, given the characters before, the nearest first. It may not behind
a word character, a dollar sign, a quote or a point, except behind three points. -/
def mayStartName (before : List Char) : Bool :=
  match before with
  | [] => true
  | '.' :: rest => rest.take 2 == ['.', '.']
  | c :: _ => !(Text.isWord c || c = '$' || c = '"' || c = '\'')

/-- Whether no word goes on here. -/
def endsWord (cs : List Char) : Bool := !(cs.head?.any Text.isWord)

/-- The length of a free input name that starts here. -/
def freeName? (before cs : List Char) : Option Nat :=
  let named (name : String) : Option Nat :=
    match Text.after? name.toList cs with
    | some rest => if endsWord rest then some name.length else none
    | none => none
  if mayStartName before then named "input" <|> named "data" else none

/-- Replaces the free input names, after `skip` characters that belong to one. -/
def renameFrom (before : List Char) : (skip : Nat) → List Char → List Char
  | _, [] => []
  | skip + 1, c :: cs => renameFrom (c :: before) skip cs
  | 0, c :: cs =>
    match freeName? before (c :: cs) with
    | some size => "inputData".toList ++ renameFrom (c :: before) (size - 1) cs
    | none => c :: renameFrom (c :: before) 0 cs

def renameInputs (cs : List Char) : List Char := renameFrom [] 0 cs

def hasWord (word : List Char) (before : Option Char) : List Char → Bool
  | [] => false
  | c :: cs =>
    (!before.any Text.isWord &&
      (match Text.after? word (c :: cs) with
        | some rest => endsWord rest
        | none => false)) || hasWord word (some c) cs

/-- The words with which a statement starts. -/
def statementWords : List String :=
  ["const", "let", "var", "if", "for", "while", "switch", "try", "throw", "function"]

def startsStatement (cs : List Char) : Bool :=
  statementWords.any fun word =>
    match Text.after? word.toList cs with
    | some rest => endsWord rest
    | none => false

def isSemicolon (c : Char) : Bool := c = ';'

def shape (s : String) : String :=
  let cs := renameInputs (Text.trimChars s.toList)
  let bare := Text.dropEnd isSemicolon cs
  let single := !cs.contains '\n' && !bare.contains ';'
  if cs.isEmpty then "inputData"
  else
    match single, Text.after? "return ".toList cs with
    | true, some rest =>
      "(" ++ String.ofList (Text.trimChars (Text.dropEnd isSemicolon rest)) ++ ")"
    | _, _ =>
      if single && !hasWord "return".toList none cs && !startsStatement cs then
        "(" ++ String.ofList bare ++ ")"
      else
        opens "await (async () =>" ++ "\n" ++ Text.indent (String.ofList cs) ++ "\n" ++ closes ++ ")()"

def transform (n : Node) (ctx : Context) : Build Body :=
  match (n.setting "code").orElse (.str "return inputData;") with
  | .str s => return .durable (Code.texts ["const result = " ++ shape (ctx.resolver.code s) ++ ";"])
  | _ => Outcome.fail .wrongType

end DurableFlow.Fragment
