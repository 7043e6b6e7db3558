import DurableFlow.Text.Split

/-!
Arguments of a command line. Options start with dashes and may stand anywhere among the operands; a
pair of dashes ends them. The value of an option follows it, or is joined to it by an equals sign.
-/

namespace DurableFlow.Command

/-- What a value of the command line must be. -/
inductive ValueKind where
  | text
  /-- A file that is there. -/
  | file
  /-- A path at which there is no directory. -/
  | output
  /-- A path at which there is no file. -/
  | directory
  | choice (names : List String)
  deriving DecidableEq, Repr

/-- An option: its names, the name of its value if it takes one, and its help. -/
structure OptionSpec where
  names : List String
  value : Option String := none
  kind : ValueKind := .text
  help : String
  deriving Repr

/-- An operand, which must be given. -/
structure OperandSpec where
  name : String
  kind : ValueKind := .text
  deriving Repr

namespace OptionSpec

def key (o : OptionSpec) : String := o.names.getLast?.getD ""

def isShort (name : String) : Bool := name.length = 2

end OptionSpec

/-- What a command line holds: options with their values, and operands. -/
structure Parsed where
  options : List (String × String) := []
  operands : List String := []
  deriving Repr

namespace Parsed

def value? (p : Parsed) (key : String) : Option String := p.options.reverse.lookup key

def has (p : Parsed) (key : String) : Bool := (p.value? key).isSome

/-- The values of the options with what they must be, in the order in which the options came first. -/
def optionValues (p : Parsed) (specs : List OptionSpec) : List (ValueKind × String) :=
  (p.options.map (·.1)).eraseDups.filterMap fun key =>
    (specs.find? fun o => o.key == key).map fun o => (o.kind, (p.value? key).getD "")

/-- The operands with what they must be; a missing one has no value. -/
def operandValues (p : Parsed) (specs : List OperandSpec) : List (ValueKind × Option String) :=
  specs.zipIdx.map fun o => (o.1.kind, p.operands[o.2]?)

end Parsed

/-- The name and the joined value of a long option. -/
def splitOption (arg : String) : String × Option String :=
  let cs := arg.toList
  match cs.dropWhile (· ≠ '=') with
  | '=' :: value => (String.ofList (cs.takeWhile (· ≠ '=')), some (String.ofList value))
  | _ => (arg, none)

/-- The flags in a word of short options; all of them must be known. -/
def shortFlags (specs : List OptionSpec) (letters : List Char) : Option (List (String × String)) :=
  letters.mapM fun c =>
    let name := String.ofList ['-', c]
    (specs.find? fun o => o.names.contains name && o.value.isNone).map fun o => (o.key, "")

/-- Reads arguments. With `mixed`, options may also follow operands; otherwise the first operand ends
them. Nothing is returned for arguments that break the rules. -/
def parseArguments (specs : List OptionSpec) (mixed : Bool) : (fuel : Nat) → List String →
    Option Parsed
  | 0, _ => none
  | _ + 1, [] => some {}
  | fuel + 1, arg :: args =>
    if arg = "--" then some { operands := args }
    else if arg.toList.head? = some '-' && 1 < arg.length then
      let (name, joined) := splitOption arg
      match specs.find? (fun o => o.names.contains name && !OptionSpec.isShort name) with
      | some o =>
        match o.value, joined, args with
        | none, none, _ => add (o.key, "") (parseArguments specs mixed fuel args)
        | none, some _, _ => none
        | some _, some value, _ => add (o.key, value) (parseArguments specs mixed fuel args)
        | some _, none, value :: rest => add (o.key, value) (parseArguments specs mixed fuel rest)
        | some _, none, [] => none
      | none =>
        if Text.after? ['-', '-'] arg.toList |>.isSome then none
        else
          match shortFlags specs (arg.toList.drop 1) with
          | some flags =>
            (parseArguments specs mixed fuel args).map fun p =>
              { p with options := flags ++ p.options }
          | none => none
    else if mixed then
      (parseArguments specs mixed fuel args).map fun p => { p with operands := arg :: p.operands }
    else some { operands := arg :: args }
where
  add (option : String × String) (rest : Option Parsed) : Option Parsed :=
    rest.map fun p => { p with options := option :: p.options }

def parse (specs : List OptionSpec) (mixed : Bool) (args : List String) : Option Parsed :=
  parseArguments specs mixed (args.length + 1) args

end DurableFlow.Command
