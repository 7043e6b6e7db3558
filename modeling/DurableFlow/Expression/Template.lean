import DurableFlow.Json.Basic
import DurableFlow.Text.Blank
import DurableFlow.Text.Split

/-!
Texts with references. A reference is written between double braces and holds at least one
character and no closing brace. A text is cut from left to right into pieces of plain text and
references, and joining the pieces gives the text back.
-/

namespace DurableFlow

/-- A piece of a text: plain characters, or the inside of a reference. -/
inductive Piece where
  | text (cs : List Char)
  | ref (inner : List Char)
  deriving DecidableEq, Repr

namespace Template

def refAt? (cs : List Char) : Option (List Char) :=
  match cs with
  | '\x7b' :: '\x7b' :: rest =>
    let inner := rest.takeWhile (· ≠ '\x7d')
    match inner, rest.dropWhile (· ≠ '\x7d') with
    | _ :: _, '\x7d' :: '\x7d' :: _ => some inner
    | _, _ => none
  | _ => none

/-- Puts a character in front of the first piece of plain text. -/
def consText (c : Char) : List Piece → List Piece
  | .text cs :: rest => .text (c :: cs) :: rest
  | pieces => .text [c] :: pieces

/-- The pieces of a text, after `skip` characters that belong to a reference. -/
def piecesFrom : (skip : Nat) → List Char → List Piece
  | _, [] => []
  | skip + 1, _ :: cs => piecesFrom skip cs
  | 0, c :: cs =>
    match refAt? (c :: cs) with
    | some inner => .ref inner :: piecesFrom (inner.length + 3) cs
    | none => consText c (piecesFrom 0 cs)

def pieces (cs : List Char) : List Piece := piecesFrom 0 cs

def isRef : Piece → Bool
  | .ref _ => true
  | .text _ => false

def hasRefs (s : String) : Bool := (pieces s.toList).any isRef

def references (s : String) : List String :=
  (pieces s.toList).filterMap fun
    | .ref inner => some (String.ofList (Text.trimChars inner))
    | .text _ => none

/-- Whether a text, blanks around it aside, is one reference. -/
def isSingle (s : String) : Bool :=
  match pieces (Text.trimChars s.toList) with
  | [.ref _] => true
  | _ => false

mutual

/-- Whether a value, or anything inside it, holds a reference, however deep. -/
def inValue : Json → Bool
  | .str s => hasRefs s
  | .arr items => inItems items
  | .obj ms => inMembers ms
  | _ => false

def inItems : List Json → Bool
  | [] => false
  | v :: vs => inValue v || inItems vs

def inMembers : List (String × Json) → Bool
  | [] => false
  | (_, v) :: ms => inValue v || inMembers ms

end

end Template

end DurableFlow
