/-!
Splitting and replacing in texts, over lists of characters.
-/

namespace DurableFlow.Text

/-- The pieces between the occurrences of a separator; there is always at least one. -/
def splitChars (sep : Char) : List Char → List (List Char)
  | [] => [[]]
  | c :: cs =>
    if c = sep then [] :: splitChars sep cs
    else
      match splitChars sep cs with
      | [] => [[c]]
      | piece :: pieces => (c :: piece) :: pieces

def splitAt (sep : Char) (s : String) : List String := (splitChars sep s.toList).map String.ofList

def after? : (start cs : List Char) → Option (List Char)
  | [], cs => some cs
  | _ :: _, [] => none
  | a :: as, c :: cs => if a = c then after? as cs else none

@[simp] theorem after?_nil (cs : List Char) : after? [] cs = some cs := by
  cases cs <;> rfl

theorem after?_append (start rest : List Char) : after? start (start ++ rest) = some rest := by
  induction start with
  | nil => simp
  | cons a as ih => simp [after?, ih]

def dropEnd (p : Char → Bool) (cs : List Char) : List Char := (cs.reverse.dropWhile p).reverse

def endsWith (ending cs : List Char) : Bool := ending.reverse.isPrefixOf cs.reverse

end DurableFlow.Text
