/-!
Control sequences of terminals. A sequence is an escape character and an opening bracket, then
parameters, then one letter. Text that is not for a terminal is printed without them.
-/

namespace DurableFlow.Text

/-- Digits, semicolons and question marks, which may stand between the bracket and the letter. -/
def isSequenceParameter (c : Char) : Bool := c.isDigit || c = ';' || c = '?'

/-- The length of a control sequence that starts here. -/
def sequenceLength? (cs : List Char) : Option Nat :=
  match cs with
  | c :: '[' :: rest =>
    if c.toNat = 27 then
      match rest.dropWhile isSequenceParameter with
      | letter :: _ =>
        if letter.isAlpha then some ((rest.takeWhile isSequenceParameter).length + 3) else none
      | [] => none
    else none
  | _ => none

/-- Drops the control sequences, after `skip` characters that belong to one. -/
def dropSequences : (skip : Nat) → List Char → List Char
  | _, [] => []
  | skip + 1, _ :: cs => dropSequences skip cs
  | 0, c :: cs =>
    match sequenceLength? (c :: cs) with
    | some n => dropSequences (n - 1) cs
    | none => c :: dropSequences 0 cs

def withoutSequences (s : String) : String := String.ofList (dropSequences 0 s.toList)

end DurableFlow.Text
