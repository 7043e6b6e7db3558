import DurableFlow.Decimal.Shortest
import DurableFlow.Json.Basic
import DurableFlow.Json.Quoted
import DurableFlow.Text.Printable

/-!
The form in which values are shown to people, in messages and in text built from configuration:
`None`, `True`, single quotes where possible, and printable characters of all scripts as themselves.
Values are shown without a limit on digits or nesting.
-/

namespace DurableFlow.Json

def displayNames : Decimal.SpecialNames where
  nan := "nan"
  infinity := "inf"

/-- The last `width` hexadecimal digits of a number. -/
def hexDigits : (width : Nat) → Nat → List Char
  | 0, _ => []
  | width + 1, n => hexDigits width (n / 16) ++ [hexDigit (n % 16)]

def displayChar (mark c : Char) : List Char :=
  if c = mark || c = '\\' then ['\\', c]
  else if c = '\n' then ['\\', 'n']
  else if c = '\r' then ['\\', 'r']
  else if c = '\t' then ['\\', 't']
  else if Text.isPrintable c then [c]
  else if c.toNat < 0x100 then '\\' :: 'x' :: hexDigits 2 c.toNat
  else if c.toNat < 0x10000 then '\\' :: 'u' :: hexDigits 4 c.toNat
  else '\\' :: 'U' :: hexDigits 8 c.toNat

/-- Single quotes, unless the text has one and has no double quote. -/
def quoteMark (cs : List Char) : Char :=
  if cs.contains '\'' && !cs.contains '"' then '"' else '\''

def displayChars (cs : List Char) : List Char :=
  let mark := quoteMark cs
  mark :: (cs.flatMap (displayChar mark) ++ [mark])

def displayString (s : String) : String := String.ofList (displayChars s.toList)

def displayFloat (x : Binary64) : String := Decimal.text displayNames x

def displayBool (b : Bool) : String := if b then "True" else "False"

def typeLabel : Json → String
  | .null => "NoneType"
  | .bool _ => "bool"
  | .int _ => "int"
  | .float _ => "float"
  | .str _ => "str"
  | .arr _ => "list"
  | .obj _ => "dict"

mutual

/-- The value as shown in messages, with texts in quotes. -/
def display : Json → String
  | .null => "None"
  | .bool b => displayBool b
  | .int n => toString n
  | .float x => displayFloat x
  | .str s => displayString s
  | .arr items => "[" ++ ", ".intercalate (displayItems items) ++ "]"
  | .obj ms => "\x7b" ++ ", ".intercalate (displayMembers ms) ++ "\x7d"

def displayItems : List Json → List String
  | [] => []
  | v :: vs => display v :: displayItems vs

def displayMembers : List (String × Json) → List String
  | [] => []
  | (k, v) :: ms => (displayString k ++ ": " ++ display v) :: displayMembers ms

end

/-- The value as running text: a text is itself, without quotes. -/
def plainText : Json → String
  | .str s => s
  | v => display v

end DurableFlow.Json
