import DurableFlow.Decimal.Reading
import DurableFlow.Json.Display
import DurableFlow.Outcome

/-!
Converting free-form values to numbers and lists, with the reason when a value cannot be converted.
-/

namespace DurableFlow.Json

/-- The first characters of a text, as many as messages show. -/
def clipped (s : String) : String := String.ofList (s.toList.take 200)

/-- The whole number of a value: numbers lose their fraction, and texts are read. -/
def toInt : Json → Except Fault Int
  | .int n => .ok n
  | .bool b => .ok (if b then 1 else 0)
  | .float .nan => .error (.badValue "cannot convert float NaN to integer")
  | .float x =>
    match x.truncate? with
    | some n => .ok n
    | none => .error .tooLarge
  | .str s =>
    match Decimal.readInt s with
    | .ok n => .ok n
    | .error (.tooLong count) => .error (.badValue (Decimal.tooManyDigits count))
    | .error .malformed =>
      .error (.badValue ("invalid literal for int() with base 10: " ++ clipped (displayString s)))
  | _ => .error .wrongType

def toFloat : Json → Except Fault Binary64
  | .float x => .ok x
  | .bool b => .ok (Binary64.ofInt (if b then 1 else 0))
  | .int n =>
    let x := Binary64.ofInt n
    if x.isFinite then .ok x else .error .tooLarge
  | .str s =>
    match Decimal.readFloat? s with
    | some x => .ok x
    | none => .error (.badValue ("could not convert string to float: " ++ displayString s))
  | _ => .error .wrongType

/-- The whole part of a multiple of a value. -/
def scaled (v : Json) (factor : Nat) : Except Fault Int := do
  let x ← v.toFloat
  (Json.float (x.scale factor)).toInt

/-- What a value holds when it is gone through: the items of an array, the keys of an object, the
characters of a text. -/
def elements : Json → Except Fault (List Json)
  | .arr items => .ok items
  | .obj ms => .ok (ms.map fun m => .str m.1)
  | .str s => .ok (s.toList.map fun c => .str c.toString)
  | _ => .error .wrongType

def elementsIfGiven (v : Json) : Except Fault (List Json) :=
  if v.isGiven then v.elements else .ok []

def asObject : Json → Except Fault Members
  | .obj ms => .ok ms
  | _ => .error .notAnObject

/-- Whether a value can be a key: arrays and objects cannot. -/
def isKey : Json → Bool
  | .arr _ => false
  | .obj _ => false
  | _ => true

def asKey (v : Json) : Except Fault Json := if v.isKey then .ok v else .error .wrongType

end DurableFlow.Json
