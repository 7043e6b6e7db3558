import DurableFlow.Text.CaseTable

/-!
Full lower and upper case of a text. Upper case may lengthen a text. Lower case writes a capital
sigma as a final sigma when a cased letter precedes it and none follows.
-/

namespace DurableFlow.Text

def isCased (c : Char) : Bool := inRanges c.toNat casedRanges

def isCaseIgnorable (c : Char) : Bool := inRanges c.toNat ignorableRanges

/-- Whether the first character that is not passed over has a case. -/
def facesCased (cs : List Char) : Bool :=
  match cs.dropWhile isCaseIgnorable with
  | [] => false
  | c :: _ => isCased c

/-- Lower case of one character, given what stands before it (nearest first) and after it. -/
def lowerChar (before : List Char) (c : Char) (after : List Char) : List Char :=
  if c.toNat = 0x3A3 then
    if facesCased before && !facesCased after then [Char.ofNat 0x3C2] else [Char.ofNat 0x3C3]
  else if c.toNat = 0x130 then ['i', Char.ofNat 0x307]
  else [Char.ofNat (shifted c.toNat lowerRuns)]

def lowerChars (before : List Char) : List Char → List Char
  | [] => []
  | c :: cs => lowerChar before c cs ++ lowerChars (c :: before) cs

def lower (s : String) : String := String.ofList (lowerChars [] s.toList)

def upperChar (c : Char) : List Char :=
  match longUppers.find? (fun entry => entry.1 == c.toNat) with
  | some entry => entry.2.map Char.ofNat
  | none => [Char.ofNat (shifted c.toNat upperRuns)]

def upper (s : String) : String := String.ofList (s.toList.flatMap upperChar)

end DurableFlow.Text
