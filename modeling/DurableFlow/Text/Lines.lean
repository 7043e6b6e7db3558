import DurableFlow.Text.Blank

/-!
Lines of a text and indentation. A line ends after any of the line breaks, and a carriage return
with a line feed behind it is one break. Indentation puts a margin in front of every line that is
not blank and changes nothing else.
-/

namespace DurableFlow.Text

/-- Line feed, vertical tab, form feed, carriage return, the separators U+001C to U+001E, next
line, line separator and paragraph separator. -/
def isLineBreak (c : Char) : Bool :=
  (0x0A ≤ c.toNat && c.toNat ≤ 0x0D) || (0x1C ≤ c.toNat && c.toNat ≤ 0x1E) ||
    c.toNat = 0x85 || c.toNat = 0x2028 || c.toNat = 0x2029

def linesOf : List Char → List (List Char)
  | [] => []
  | '\r' :: '\n' :: rest => ['\r', '\n'] :: linesOf rest
  | c :: rest =>
    if isLineBreak c then [c] :: linesOf rest
    else
      match linesOf rest with
      | [] => [[c]]
      | line :: lines => (c :: line) :: lines

def indentLine (margin line : List Char) : List Char :=
  if line.all isBlank then line else margin ++ line

def indentChars (margin cs : List Char) : List Char :=
  (linesOf cs).flatMap (indentLine margin)

def indentBy (margin code : String) : String :=
  String.ofList (indentChars margin.toList code.toList)

/-- The indentation of one level, two spaces. -/
def indent (code : String) : String := indentBy "  " code

def block (lines : List String) : String := "\n".intercalate lines

end DurableFlow.Text
