import DurableFlow.Decimal.Reading
import DurableFlow.Json.Basic
import DurableFlow.Outcome
import DurableFlow.Text.Split

/-!
Reading JSON text. The reader accepts standard JSON and the names `NaN`, `Infinity` and `-Infinity`.
A repeated key keeps its first place and takes its last value. A failure names its cause and the
place where it was found, counted from the end so that the reader only looks forward. Whole numbers
with too many digits and values nested too deeply are not read, though the text is JSON. Texts are made of
characters, so that two texts which differ only in surrogates without partners are read as one.
-/

namespace DurableFlow.Json

/-- Why a text is not JSON. -/
inductive ReadCause where
  | value
  | propertyName
  | colon
  | comma
  | unterminated
  | control
  | escape
  | unicodeEscape
  | extraData
  | byteOrderMark
  | tooManyDigits (count : Nat)
  | tooDeep (container : String)
  deriving DecidableEq, Repr

def ReadCause.message : ReadCause → String
  | .value => "Expecting value"
  | .propertyName => "Expecting property name enclosed in double quotes"
  | .colon => "Expecting ':' delimiter"
  | .comma => "Expecting ',' delimiter"
  | .unterminated => "Unterminated string starting at"
  | .control => "Invalid control character at"
  | .escape => "Invalid \\escape"
  | .unicodeEscape => "Invalid \\uXXXX escape"
  | .extraData => "Extra data"
  | .byteOrderMark => "Unexpected UTF-8 BOM (decode using utf-8-sig)"
  | .tooManyDigits count => Decimal.tooManyDigits count
  | .tooDeep container =>
    "maximum recursion depth exceeded while decoding a JSON " ++ container ++ " from a unicode string"

/-- The fault when a limit of the reader was passed. -/
def ReadCause.limit? : ReadCause → Option Fault
  | .tooManyDigits count => some (.badValue (ReadCause.tooManyDigits count).message)
  | .tooDeep container => some (.tooDeep (ReadCause.tooDeep container).message)
  | _ => none

/-- The deepest nesting of arrays and objects that is read. -/
def maxDepth : Nat := 985

/-- A failure with the number of characters left where it was found. -/
structure ReadFault where
  cause : ReadCause
  left : Nat
  deriving DecidableEq, Repr

/-- A failure with its place in the text: the characters before it. -/
structure ReadError where
  cause : ReadCause
  before : List Char
  deriving DecidableEq, Repr

namespace ReadError

def position (e : ReadError) : Nat := e.before.length

/-- Lines are counted by line feeds, from one. -/
def line (e : ReadError) : Nat := e.before.count '\n' + 1

/-- Columns are counted from one, behind the last line feed. -/
def column (e : ReadError) : Nat := (e.before.reverse.takeWhile (· ≠ '\n')).length + 1

def message (e : ReadError) : String :=
  e.cause.message ++ ": line " ++ toString e.line ++ " column " ++ toString e.column ++
    " (char " ++ toString e.position ++ ")"

end ReadError

/-- Why a text is not read: it is not JSON, or it passes a limit. -/
inductive ParseError where
  | malformed (e : ReadError)
  | limit (f : Fault)
  deriving DecidableEq, Repr

def ParseError.message : ParseError → String
  | .malformed e => e.message
  | .limit f => f.reason?.getD "the text cannot be read"

def isSpace (c : Char) : Bool := c = ' ' || c = '\t' || c = '\n' || c = '\r'

def skipSpace (cs : List Char) : List Char := cs.dropWhile isSpace

def hexValue? (c : Char) : Option Nat :=
  if '0' ≤ c && c ≤ '9' then some (c.toNat - 48)
  else if 'a' ≤ c && c ≤ 'f' then some (c.toNat - 87)
  else if 'A' ≤ c && c ≤ 'F' then some (c.toNat - 55)
  else none

def hexUnit? (a b c d : Char) : Option Nat := do
  return (((← hexValue? a) * 16 + (← hexValue? b)) * 16 + (← hexValue? c)) * 16 + (← hexValue? d)

def isHighSurrogate (n : Nat) : Bool := 0xD800 ≤ n && n ≤ 0xDBFF

def isLowSurrogate (n : Nat) : Bool := 0xDC00 ≤ n && n ≤ 0xDFFF

def joinSurrogates (high low : Nat) : Nat := 0x10000 + (high - 0xD800) * 0x400 + (low - 0xDC00)

/-- A code unit as a character; a surrogate without its partner becomes the replacement mark. -/
def unitChar (n : Nat) : Char :=
  if isHighSurrogate n || isLowSurrogate n then Char.ofNat 0xFFFD else Char.ofNat n

/-- The character that a one-letter escape stands for. -/
def shortEscape? (c : Char) : Option Char :=
  if c = '"' || c = '\\' || c = '/' then some c
  else if c = 'n' then some '\n'
  else if c = 't' then some '\t'
  else if c = 'r' then some '\r'
  else if c = 'b' then some (Char.ofNat 8)
  else if c = 'f' then some (Char.ofNat 12)
  else none

/-- A character inside quotes that is written as a code unit: its digits stand in front of `tail`.
Gives the character and how many characters behind the backslash belong to it. -/
def readUnit (unit : Nat) (tail : List Char) : Except ReadFault (Char × Nat) :=
  match tail with
  | [] => .error ⟨.unicodeEscape, 5⟩
  | '\\' :: 'u' :: e :: f :: g :: h :: _ :: rest =>
    if isHighSurrogate unit then
      match hexUnit? e f g h with
      | none => .error ⟨.unicodeEscape, rest.length + 6⟩
      | some low =>
        if isLowSurrogate low then .ok (Char.ofNat (joinSurrogates unit low), 11)
        else .ok (unitChar unit, 5)
    else .ok (unitChar unit, 5)
  | _ :: _ => .ok (unitChar unit, 5)

/-- An escape, given what stands behind its backslash. Gives the character and how many characters
behind the backslash belong to it. `opened` is the number of characters from the opening quote to the
end of the input. -/
def readEscape (opened : Nat) : List Char → Except ReadFault (Char × Nat)
  | [] => .error ⟨.unterminated, opened⟩
  | 'u' :: a :: b :: c :: d :: tail =>
    match hexUnit? a b c d with
    | none => .error ⟨.unicodeEscape, tail.length + 5⟩
    | some unit => readUnit unit tail
  | 'u' :: rest => .error ⟨.unicodeEscape, rest.length + 1⟩
  | c :: rest =>
    match shortEscape? c with
    | some e => .ok (e, 1)
    | none => .error ⟨.escape, rest.length + 2⟩

/-- A text up to its closing quote, after `skip` characters that belong to an escape. -/
def readStringFrom (opened : Nat) : (skip : Nat) → List Char →
    Except ReadFault (List Char × List Char)
  | _, [] => .error ⟨.unterminated, opened⟩
  | skip + 1, _ :: rest => readStringFrom opened skip rest
  | 0, c :: rest =>
    if c = '"' then .ok ([], rest)
    else if c = '\\' then
      match readEscape opened rest with
      | .error e => .error e
      | .ok (x, size) => (readStringFrom opened size rest).map fun p => (x :: p.1, p.2)
    else if c.toNat ≤ 0x1F then .error ⟨.control, rest.length + 1⟩
    else (readStringFrom opened 0 rest).map fun p => (c :: p.1, p.2)

def readString (opened : Nat) (cs : List Char) : Except ReadFault (List Char × List Char) :=
  readStringFrom opened 0 cs

def digitsValue (cs : List Char) : Nat := cs.foldl (fun n c => 10 * n + (c.toNat - 48)) 0

/-- The digits of the whole part: a zero alone, or a run that starts with another digit. -/
def takeWhole (cs : List Char) : List Char × List Char :=
  match cs with
  | '0' :: rest => (['0'], rest)
  | _ => cs.span Text.isAsciiDigit

def takeFraction (cs : List Char) : List Char × List Char :=
  match cs with
  | '.' :: rest =>
    match rest.span Text.isAsciiDigit with
    | ([], _) => ([], cs)
    | p => p
  | _ => ([], cs)

/-- The sign and digits behind an exponent mark, when there is at least one digit. -/
def takePower (cs : List Char) : Option (Bool × List Char) × List Char :=
  match cs with
  | c :: rest =>
    if c = 'e' || c = 'E' then
      let signed : Bool × List Char :=
        match rest with
        | '-' :: r => (true, r)
        | '+' :: r => (false, r)
        | r => (false, r)
      match signed.2.span Text.isAsciiDigit with
      | ([], _) => (none, cs)
      | p => (some (signed.1, p.1), p.2)
    else (none, cs)
  | [] => (none, [])

/-- A number; without a point and an exponent it is a whole number. -/
def readNumber (cs : List Char) : Except ReadFault (Json × List Char) :=
  let negative := cs.head? == some '-'
  let unsigned := if negative then cs.tail else cs
  match takeWhole unsigned with
  | ([], _) => .error ⟨.value, cs.length⟩
  | (whole, rest) =>
    let fraction := takeFraction rest
    let power := takePower fraction.2
    match fraction.1, power.1 with
    | [], none =>
      if Decimal.maxDigits < whole.length then .error ⟨.tooManyDigits whole.length, cs.length⟩
      else
        let n : Int := digitsValue whole
        .ok (.int (if negative then -n else n), power.2)
    | ds, p =>
      let e : Int :=
        match p with
        | some (true, es) => -(digitsValue es : Int)
        | some (false, es) => digitsValue es
        | none => 0
      let x := Binary64.ofDecimal negative (digitsValue (whole ++ ds)) (e - ds.length)
      .ok (.float x, power.2)

def readName? (cs : List Char) : Option (Json × List Char) :=
  let named (name : String) (v : Json) := (Text.after? name.toList cs).map fun rest => (v, rest)
  named "null" .null <|> named "true" (.bool true) <|> named "false" (.bool false) <|>
    named "NaN" (.float .nan) <|> named "Infinity" (.float (.infinite false)) <|>
    named "-Infinity" (.float (.infinite true))

mutual

/-- A value that starts at the first character. The fuel bounds the number of steps, and `depth` is the
number of arrays and objects that may still be opened. -/
def readValue : (fuel depth : Nat) → List Char → Except ReadFault (Json × List Char)
  | 0, _, cs => .error ⟨.value, cs.length⟩
  | fuel + 1, depth, cs =>
    match cs, depth with
    | '"' :: rest, _ =>
      (readString cs.length rest).map fun p => (.str (String.ofList p.1), p.2)
    | '[' :: rest, 0 => .error ⟨.tooDeep "array", rest.length⟩
    | '[' :: rest, depth + 1 =>
      match skipSpace rest with
      | ']' :: after => .ok (.arr [], after)
      | inner => (readItems fuel depth inner).map fun p => (.arr p.1, p.2)
    | '\x7b' :: rest, 0 => .error ⟨.tooDeep "object", rest.length⟩
    | '\x7b' :: rest, depth + 1 =>
      match skipSpace rest with
      | '\x7d' :: after => .ok (.obj [], after)
      | inner =>
        (readMembers fuel depth inner).map fun p => (.obj (Members.merge [] p.1), p.2)
    | _, _ =>
      match readName? cs with
      | some p => .ok p
      | none => readNumber cs

/-- The items of an array from its first one to the closing bracket. -/
def readItems : (fuel depth : Nat) → List Char → Except ReadFault (List Json × List Char)
  | 0, _, cs => .error ⟨.value, cs.length⟩
  | fuel + 1, depth, cs =>
    match readValue fuel depth cs with
    | .error e => .error e
    | .ok (v, rest) =>
      match skipSpace rest with
      | ']' :: after => .ok ([v], after)
      | ',' :: more => (readItems fuel depth (skipSpace more)).map fun p => (v :: p.1, p.2)
      | other => .error ⟨.comma, other.length⟩

/-- The members of an object from its first one to the closing brace. -/
def readMembers : (fuel depth : Nat) → List Char → Except ReadFault (Members × List Char)
  | 0, _, cs => .error ⟨.propertyName, cs.length⟩
  | fuel + 1, depth, cs =>
    match cs with
    | '"' :: rest =>
      match readString cs.length rest with
      | .error e => .error e
      | .ok (key, afterKey) =>
        match skipSpace afterKey with
        | ':' :: beforeValue =>
          match readValue fuel depth (skipSpace beforeValue) with
          | .error e => .error e
          | .ok (v, afterValue) =>
            match skipSpace afterValue with
            | '\x7d' :: after => .ok ([(String.ofList key, v)], after)
            | ',' :: more =>
              (readMembers fuel depth (skipSpace more)).map
                fun p => ((String.ofList key, v) :: p.1, p.2)
            | other => .error ⟨.comma, other.length⟩
        | other => .error ⟨.colon, other.length⟩
    | _ => .error ⟨.propertyName, cs.length⟩

end

def readChars (cs : List Char) : Except ReadFault Json :=
  if cs.head? == some (Char.ofNat 0xFEFF) then .error ⟨.byteOrderMark, cs.length⟩
  else
    match readValue (2 * cs.length + 1) maxDepth (skipSpace cs) with
    | .error e => .error e
    | .ok (v, rest) =>
      match skipSpace rest with
      | [] => .ok v
      | other => .error ⟨.extraData, other.length⟩

def parse (s : String) : Except ParseError Json :=
  match readChars s.toList with
  | .ok v => .ok v
  | .error e =>
    match e.cause.limit? with
    | some f => .error (.limit f)
    | none => .error (.malformed ⟨e.cause, s.toList.take (s.toList.length - e.left)⟩)

end DurableFlow.Json
