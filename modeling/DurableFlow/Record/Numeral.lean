import DurableFlow.Decimal.Reading
import DurableFlow.Record.Issue

/-!
Numbers given as texts in a record. A whole number is first taken as it stands; only when that fails
are white space, a sign, leading zeros, a fraction of zeros and underscores cleared away. The limit on
the number of digits applies to the digits that stand first, whatever follows them.
-/

namespace DurableFlow.Numeral

/-- An optional minus, and digits that start with `0` only in the numeral `0`. -/
def plain (cs : List Char) : Except IssueKind Int :=
  let negative := cs.head? = some '-'
  let body := if negative then cs.tail else cs
  let digits := body.takeWhile Text.isAsciiDigit
  if body = ['0'] then .ok 0
  else if digits.isEmpty || digits.head? = some '0' then .error .integerText
  else if Decimal.maxDigits < digits.length then .error .integerSize
  else if digits.length < body.length then .error .integerText
  else
    let n := Decimal.ofDigits (digits.map fun c => c.toNat - 48)
    .ok (if negative then -(n : Int) else n)

/-- What follows leading zeros, the last of which is given. Underscores count as zeros here. A point
keeps the character in front of it, and so does the end. -/
def afterZeros (last : Char) : List Char → Option (List Char)
  | [] => some [last]
  | c :: cs =>
    if c = '0' || c = '_' then afterZeros c cs
    else if c = '.' then some (last :: c :: cs)
    else if c = '-' || Text.isAsciiDigit c then some (c :: cs)
    else none

def dropZeros : List Char → Option (List Char)
  | [] => none
  | c :: cs =>
    if c = '0' then afterZeros c cs
    else if Text.isAsciiDigit c then some (c :: cs)
    else none

def dropZeroFraction (cs : List Char) : List Char :=
  match cs.dropWhile (· ≠ '.') with
  | '.' :: zeros =>
    if !zeros.isEmpty && zeros.all (· = '0') then cs.takeWhile (· ≠ '.') else cs
  | _ => cs

/-- Underscores may stand singly between other characters, not at the ends. -/
def dropUnderscores (cs : List Char) : Option (List Char) :=
  if cs.head? = some '_' || cs.getLast? = some '_' then none
  else if (cs.zip cs.tail).any (fun p => p.1 = '_' && p.2 = '_') then none
  else some (cs.filter (· ≠ '_'))

/-- A text with all that may surround the digits of a whole number cleared away. -/
def cleaned (cs : List Char) : Option (List Char) :=
  let p := Decimal.takeSign (Text.trimWhite cs)
  (dropZeros p.2).map fun ds =>
    let body := dropZeroFraction ds
    let digits := (dropUnderscores body).getD body
    if p.1 then '-' :: digits else digits

/-- The whole number a text stands for. -/
def int (s : String) : Except IssueKind Int :=
  match plain s.toList with
  | .error .integerText =>
    match cleaned s.toList with
    | some cs => plain cs
    | none => .error .integerText
  | result => result

/-- A floating point number in ASCII with nothing around it. -/
def bareFloat? (cs : List Char) : Option Binary64 :=
  if cs.any fun c => c = '_' || Text.isWhite c || 128 ≤ c.toNat then none
  else Decimal.readFloat? (String.ofList cs)

/-- The floating point number a text stands for: white space may surround it, or else underscores may
stand in it, but not both. -/
def float? (s : String) : Option Binary64 :=
  (bareFloat? (Text.trimWhite s.toList)).or ((dropUnderscores s.toList).bind bareFloat?)

end DurableFlow.Numeral
