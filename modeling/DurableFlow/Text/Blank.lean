import DurableFlow.Text.Ranges

/-!
Blank characters, trimming and splitting at blanks. A blank is white space in the Unicode sense, or
one of the four information separators.
-/

namespace DurableFlow.Text

def blankRanges : List (Nat × Nat) :=
  [(9, 13), (28, 32), (133, 133), (160, 160), (5760, 5760), (8192, 8202), (8232, 8233),
   (8239, 8239), (8287, 8287), (12288, 12288)]

/-- White space of any script, and the separators U+001C to U+001F. -/
def isBlank (c : Char) : Bool := inRanges c.toNat blankRanges

def isWhite (c : Char) : Bool := isBlank c && !(28 ≤ c.toNat && c.toNat ≤ 31)

def trimWhile (p : Char → Bool) (cs : List Char) : List Char :=
  ((cs.dropWhile p).reverse.dropWhile p).reverse

def trimChars (cs : List Char) : List Char := trimWhile isBlank cs

/-- Drops the white space at both ends, as is done around numbers. -/
def trimWhite (cs : List Char) : List Char := trimWhile isWhite cs

def trim (s : String) : String := String.ofList (trimChars s.toList)

def runs (p : Char → Bool) : List Char → List (List Char)
  | [] => []
  | c :: cs =>
    if p c then
      match cs with
      | [] => [[c]]
      | d :: _ =>
        if p d then
          match runs p cs with
          | [] => [[c]]
          | r :: rs => (c :: r) :: rs
        else [c] :: runs p cs
    else runs p cs

def words (s : String) : List String := (runs (fun c => !isBlank c) s.toList).map String.ofList

/-- The words of a text with one space between them, so that the result is a single line. -/
def singleLine (s : String) : String := " ".intercalate (words s)

end DurableFlow.Text
