import DurableFlow.Decimal.Binary64

/-!
JSON values. Whole numbers and floating point numbers are kept apart, and an object keeps its
members in the order in which they were written.

The limits on digits and on nesting stand with the reader and the writer of texts. Functions that go
through a value in memory, to show it or to make code of it, take it whatever its size; that such a call
ends early beyond some 330 levels, or over a number of more than 4300 digits, is no part of them.
-/

namespace DurableFlow

inductive Json where
  | null
  | bool (b : Bool)
  | int (n : Int)
  | float (x : Binary64)
  | str (s : String)
  | arr (items : List Json)
  | obj (members : List (String × Json))
  deriving Repr, Inhabited, BEq

abbrev Members := List (String × Json)

namespace Members

def get? (key : String) : Members → Option Json
  | [] => none
  | (k, v) :: rest => if k = key then some v else get? key rest

def has (key : String) (ms : Members) : Bool := (get? key ms).isSome

/-- Replaces the value of a key where it stands, or appends the member. -/
def set (key : String) (value : Json) : Members → Members
  | [] => [(key, value)]
  | (k, v) :: rest => if k = key then (k, value) :: rest else (k, v) :: set key value rest

def erase (key : String) (ms : Members) : Members := ms.filter (fun m => m.1 ≠ key)

/-- The members of `ms` with those of `overrides` set over them. -/
def merge (ms overrides : Members) : Members := overrides.foldl (fun acc m => set m.1 m.2 acc) ms

@[simp] theorem get?_nil (key : String) : get? key [] = none := rfl

theorem get?_set_self (key : String) (value : Json) (ms : Members) :
    get? key (set key value ms) = some value := by
  induction ms with
  | nil => simp [set, get?]
  | cons m rest ih =>
      obtain ⟨k, v⟩ := m
      by_cases h : k = key <;> simp [set, get?, h, ih]

theorem get?_set_of_ne {key other : String} (h : other ≠ key) (value : Json) (ms : Members) :
    get? other (set key value ms) = get? other ms := by
  induction ms with
  | nil => simp [set, get?, h.symm]
  | cons m rest ih =>
      obtain ⟨k, v⟩ := m
      by_cases hk : k = key
      · simp [set, get?, hk, h.symm]
      · by_cases ho : k = other
        · simp [set, get?, ho, h]
        · simp [set, get?, hk, ho, ih]

end Members

namespace Json

def members? : Json → Option Members
  | .obj ms => some ms
  | _ => none

def items? : Json → Option (List Json)
  | .arr items => some items
  | _ => none

def string? : Json → Option String
  | .str s => some s
  | _ => none

/-- The member of an object; null when it is missing or the value is no object. -/
def field (v : Json) (key : String) : Json :=
  match v with
  | .obj ms => (Members.get? key ms).getD .null
  | _ => .null

def isNull : Json → Bool
  | .null => true
  | _ => false

/-- Whether a value counts as given: zeros, empty texts and empty containers, `false` and null do
not. -/
def isGiven : Json → Bool
  | .null => false
  | .bool b => b
  | .int n => n ≠ 0
  | .float x => !x.isZero
  | .str s => s ≠ ""
  | .arr items => !items.isEmpty
  | .obj ms => !ms.isEmpty

/-- The value if it is given, and the default otherwise. -/
def orElse (v default : Json) : Json := if v.isGiven then v else default

def ofStrings (xs : List String) : Json := .arr (xs.map .str)

end Json

end DurableFlow
