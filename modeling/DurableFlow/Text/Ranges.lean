/-!
Character classes given by a table of code point ranges in increasing order. Membership walks the
table and stops at the first range that starts beyond the character.
-/

namespace DurableFlow.Text

/-- Whether the code point lies in one of the ranges, which are sorted and disjoint. -/
def inRanges (n : Nat) : List (Nat × Nat) → Bool
  | [] => false
  | (lo, hi) :: rest => if n < lo then false else n ≤ hi || inRanges n rest

@[simp] theorem inRanges_nil (n : Nat) : inRanges n [] = false := rfl

end DurableFlow.Text
