import DurableFlow.Step.Name
import DurableFlow.Text.Case
import DurableFlow.Text.Split

/-!
The names of a compiled module: the name under which it is deployed, the name of its class, and the
name of the binding of its workflow.
-/

namespace DurableFlow.Module

def isSlugChar (c : Char) : Bool := Text.isAsciiLower c || Text.isAsciiDigit c

def isClassChar (c : Char) : Bool := Text.isAsciiLetter c || Text.isAsciiDigit c

/-- Small letters and digits, with single dashes between the words. -/
def slug (name : String) : String :=
  match (Text.runs isSlugChar (Text.lower name).toList).map String.ofList with
  | [] => "workflow"
  | words => "-".intercalate words

/-- A class name starts with a letter. -/
def startWithCapital (cs : List Char) : List Char :=
  match cs with
  | [] => "Generated".toList
  | c :: _ => if Text.isAsciiDigit c then 'W' :: cs else cs

/-- The words of a name with capitals in front, ending in `Workflow`. -/
def className (name : String) : String :=
  let words := (Text.runs isClassChar name.toList).map (Step.mapHead Step.toUpper)
  let base := startWithCapital words.flatten
  let ending := "Workflow".toList
  String.ofList (if Text.endsWith ending base then base else base ++ ending)

def bindingName (className : String) : String :=
  let safe (c : Char) : Char := if Text.isAsciiUpper c || Text.isAsciiDigit c then c else '_'
  String.ofList ((Text.upper className).toList.map safe) ++ "_WORKFLOW"

/-- The class that serves the workflow of a class as a tool. -/
def toolClass (className : String) : String := className ++ "MCP"

end DurableFlow.Module
