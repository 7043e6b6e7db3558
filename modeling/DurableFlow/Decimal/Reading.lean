import DurableFlow.Decimal.Binary64
import DurableFlow.Text.Blank
import DurableFlow.Text.Digit

/-!
Reading whole and floating point numbers from free text. White space around the number is
ignored, decimal digits of every script count, and single underscores may stand between digits.
-/

namespace DurableFlow.Decimal

/-- The value of a list of digit values, most significant first. -/
def ofDigits (ds : List Nat) : Nat := ds.foldl (fun n d => 10 * n + d) 0

/-- Reads digits with single underscores between them. Gives the values and the rest, which starts
with neither a digit nor an underscore that continues the number. -/
def takeDigits : List Char → List Nat × List Char
  | [] => ([], [])
  | '_' :: c :: cs =>
    match Text.decimalValue? c with
    | some d => let p := takeDigits cs; (d :: p.1, p.2)
    | none => ([], '_' :: c :: cs)
  | c :: cs =>
    match Text.decimalValue? c with
    | some d => let p := takeDigits cs; (d :: p.1, p.2)
    | none => ([], c :: cs)

def digitRun (cs : List Char) : List Nat × List Char :=
  match cs with
  | '_' :: _ => ([], cs)
  | _ => takeDigits cs

def takeSign : List Char → Bool × List Char
  | '-' :: cs => (true, cs)
  | '+' :: cs => (false, cs)
  | cs => (false, cs)

/-- The largest number of digits that are converted to a whole number. -/
def maxDigits : Nat := 4300

/-- Why a number of that many digits is not converted. -/
def tooManyDigits (count : Nat) : String :=
  "Exceeds the limit (" ++ toString maxDigits ++ " digits) for integer string conversion: value has " ++
    toString count ++ " digits; use sys.set_int_max_str_digits() to increase the limit"

/-- Why a text is not converted to a whole number. -/
inductive IntFault where
  | malformed
  | tooLong (count : Nat)
  deriving DecidableEq, Repr

/-- A whole number: a sign and digits. The digits are counted before what follows them is looked at,
but an underscore out of place comes first. -/
def readInt (s : String) : Except IntFault Int :=
  let p := takeSign (Text.trimWhite s.toList)
  match digitRun p.2 with
  | ([], _) => .error .malformed
  | (_, '_' :: _) => .error .malformed
  | (ds, rest) =>
    if maxDigits < ds.length then .error (.tooLong ds.length)
    else if !rest.isEmpty then .error .malformed
    else .ok (if p.1 then -(ofDigits ds : Int) else ofDigits ds)

def takeExponent (cs : List Char) : Option (Int × List Char) :=
  match cs with
  | [] => some (0, [])
  | c :: rest =>
    if c = 'e' || c = 'E' then
      let p := takeSign rest
      match digitRun p.2 with
      | ([], _) => none
      | (ds, rest') => some (if p.1 then -(ofDigits ds : Int) else ofDigits ds, rest')
    else some (0, cs)

def asciiLowerChar (c : Char) : Char :=
  if Text.isAsciiUpper c then Char.ofNat (c.toNat + 32) else c

/-- A floating point number: decimal or scientific notation, `inf`, `infinity` or `nan`. -/
def readFloat? (s : String) : Option Binary64 :=
  let p := takeSign (Text.trimWhite s.toList)
  let word := String.ofList (p.2.map asciiLowerChar)
  if word = "inf" || word = "infinity" then some (.infinite p.1)
  else if word = "nan" then some .nan
  else
    let whole := digitRun p.2
    let part :=
      match whole.2 with
      | '.' :: rest => digitRun rest
      | rest => ([], rest)
    match whole.1 ++ part.1, takeExponent part.2 with
    | [], _ => none
    | ds, some (e, []) => some (.ofDecimal p.1 (ofDigits ds) (e - part.1.length))
    | _, _ => none

end DurableFlow.Decimal
