import DurableFlow.Command.Arguments
import DurableFlow.Text.Blank
import DurableFlow.Text.Lines

/-!
Help texts. Paragraphs are filled to a fixed width, a word that is longer than a line is cut, and
options and commands are listed in two columns.
-/

namespace DurableFlow.Command

def helpWidth : Nat := 78

def spaces (n : Nat) : List Char := List.replicate n ' '

def parts (size : Nat) : (fuel : Nat) → List Char → List (List Char)
  | 0, _ => []
  | fuel + 1, cs =>
    if cs.isEmpty then [] else cs.take size :: parts size fuel (cs.drop size)

/-- Fills lines of the given width, the first of which has begun. -/
def fill (width : Nat) (line : List Char) : List (List Char) → List (List Char)
  | [] => [line]
  | word :: words =>
    let begun := if line.isEmpty then [] else line ++ [' ']
    if width < word.length then
      let room := max (width - begun.length) 1
      let rest := parts width word.length (word.drop room)
      (begun ++ word.take room) :: rest.dropLast ++ fill width (rest.getLast?.getD []) words
    else if begun.length + word.length ≤ width then fill width (begun ++ word) words
    else line :: fill width word words

/-- A paragraph whose first line starts with `head`; the other lines are indented as far. -/
def paragraph (head text : String) : String :=
  let words := (Text.words text).map String.toList
  let margin := spaces head.length
  match fill (helpWidth - head.length) [] words with
  | [] => head
  | first :: rest =>
    Text.block ((head ++ String.ofList first) ::
      rest.map fun line => String.ofList (margin ++ line))

/-- The words up to the first that ends with a point. -/
def firstSentence : List String → List String
  | [] => []
  | word :: words =>
    if word.toList.getLast? = some '.' then [word] else word :: firstSentence words

def brief (summary : String) : String := " ".intercalate (firstSentence (Text.words summary))

def table (rows : List (String × String)) : List String :=
  let width := (rows.map fun r => r.1.length).foldl max 0
  rows.map fun r => "  " ++ r.1 ++ String.ofList (spaces (width - r.1.length)) ++ "  " ++ r.2

def optionRow (o : OptionSpec) : String × String :=
  let names := ", ".intercalate o.names
  (match o.value with
    | some value => names ++ " " ++ value
    | none => names, o.help)

/-- The help of a command or a group: how it is called, what it does, its options and its commands. -/
def helpText (path arguments summary : String) (options : List OptionSpec)
    (commands : List (String × String)) : String :=
  Text.block ([paragraph ("Usage: " ++ path ++ " ") ("[OPTIONS] " ++ arguments), "",
      paragraph "  " summary, "", "Options:"] ++
    table (options.map optionRow) ++
    (if commands.isEmpty then []
     else "" :: "Commands:" :: table (commands.map fun c => (c.1, brief c.2))))

end DurableFlow.Command
