/-!
Decoding bytes as UTF-8. The decoder refuses everything that is not the shortest form of a scalar
value and says which bytes it could not take.
-/

namespace DurableFlow.Text

/-- Why bytes cannot be decoded. -/
inductive Utf8Cause where
  | start
  | continuation
  | endOfData
  deriving DecidableEq, Repr

def Utf8Cause.message : Utf8Cause → String
  | .start => "invalid start byte"
  | .continuation => "invalid continuation byte"
  | .endOfData => "unexpected end of data"

/-- A failure at some bytes: the first of them, their position and their number. -/
structure Utf8Error where
  byte : UInt8
  position : Nat
  count : Nat
  cause : Utf8Cause
  deriving DecidableEq, Repr

def hexByte (b : UInt8) : String :=
  String.ofList [Nat.digitChar (b.toNat / 16), Nat.digitChar (b.toNat % 16)]

def Utf8Error.message (e : Utf8Error) : String :=
  let place :=
    if e.count = 1 then "byte 0x" ++ hexByte e.byte ++ " in position " ++ toString e.position
    else
      "bytes in position " ++ toString e.position ++ "-" ++ toString (e.position + e.count - 1)
  "'utf-8' codec can't decode " ++ place ++ ": " ++ e.cause.message

/-- The number of bytes behind a start byte, with the range of the first of them. -/
def followers? (b : UInt8) : Option (Nat × UInt8 × UInt8) :=
  if b < 0x80 then some (0, 0x80, 0xBF)
  else if b < 0xC2 then none
  else if b < 0xE0 then some (1, 0x80, 0xBF)
  else if b = 0xE0 then some (2, 0xA0, 0xBF)
  else if b = 0xED then some (2, 0x80, 0x9F)
  else if b < 0xF0 then some (2, 0x80, 0xBF)
  else if b = 0xF0 then some (3, 0x90, 0xBF)
  else if b < 0xF4 then some (3, 0x80, 0xBF)
  else if b = 0xF4 then some (3, 0x80, 0x8F)
  else none

/-- The bits of a start byte that belong to the value. -/
def startBits (b : UInt8) (more : Nat) : Nat :=
  match more with
  | 0 => b.toNat
  | 1 => b.toNat - 0xC0
  | 2 => b.toNat - 0xE0
  | _ => b.toNat - 0xF0

/-- Takes the bytes behind a start byte: the value, or how many bytes were good and what then went
wrong. -/
def takeFollowers (value good : Nat) : (more : Nat) → (lo hi : UInt8) → List UInt8 →
    Except (Nat × Utf8Cause) Nat
  | 0, _, _, _ => .ok value
  | _ + 1, _, _, [] => .error (good, .endOfData)
  | more + 1, lo, hi, b :: bs =>
    if lo ≤ b && b ≤ hi then
      takeFollowers (value * 64 + (b.toNat - 0x80)) (good + 1) more 0x80 0xBF bs
    else .error (good, .continuation)

/-- Decodes from a position on, after `skip` bytes that belong to a character. -/
def decodeFrom (position : Nat) : (skip : Nat) → List UInt8 → Except Utf8Error (List Char)
  | _, [] => .ok []
  | skip + 1, _ :: bs => decodeFrom (position + 1) skip bs
  | 0, b :: bs =>
    match followers? b with
    | none => .error ⟨b, position, 1, .start⟩
    | some (more, lo, hi) =>
      match takeFollowers (startBits b more) 1 more lo hi bs with
      | .error (good, cause) => .error ⟨b, position, good, cause⟩
      | .ok value => (decodeFrom (position + 1) more bs).map (Char.ofNat value :: ·)

def decodeUtf8 (bytes : List UInt8) : Except Utf8Error String :=
  (decodeFrom 0 0 bytes).map String.ofList

def plainBreaks : List Char → List Char
  | [] => []
  | '\r' :: '\n' :: cs => '\n' :: plainBreaks cs
  | c :: cs => (if c = '\r' then '\n' else c) :: plainBreaks cs

end DurableFlow.Text
