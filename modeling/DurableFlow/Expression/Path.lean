import DurableFlow.Json.Quoted
import DurableFlow.Text.Digit
import DurableFlow.Text.Word

/-!
Property chains. A path is a list of segments, and each segment is written as a member access: by
name, by index, or by a quoted key.
-/

namespace DurableFlow.Path

def isNameStart (c : Char) : Bool := Text.isAsciiLetter c || c = '_' || c = '$'

def isNamePart (c : Char) : Bool := Text.isWord c || c = '$'

/-- Where a reader of index groups stands: between groups, behind a bracket, or within digits. -/
inductive IndexState where
  | between
  | opened
  | digits
  deriving DecidableEq, Repr

/-- Whether the text is a sequence of groups such as `[12][0]`; a line feed may end it. -/
def isIndices : IndexState → List Char → Bool
  | .between, [] => true
  | .between, c :: cs =>
    if c = '[' then isIndices .opened cs else c = '\n' && cs.isEmpty
  | .opened, c :: cs => Text.isDecimal c && isIndices .digits cs
  | .digits, c :: cs =>
    if c = ']' then isIndices .between cs else Text.isDecimal c && isIndices .digits cs
  | .opened, [] => false
  | .digits, [] => false

def isMember : List Char → Bool
  | [] => false
  | c :: cs => isNameStart c && isIndices .between (cs.dropWhile isNamePart)

def dropFinalBreak (cs : List Char) : List Char :=
  if cs.getLast? = some '\n' then cs.dropLast else cs

/-- The access that one segment is written as; an empty segment is left out. -/
def renderSegment (cs : List Char) : List Char :=
  if cs.isEmpty then []
  else if isMember cs then '.' :: dropFinalBreak cs
  else if cs.all Text.isDigitLike then '[' :: (cs ++ [']'])
  else '[' :: (Json.quoteChars cs ++ [']'])

/-- The chain of accesses of a path. -/
def render (segments : List String) : String :=
  String.ofList (segments.flatMap fun s => renderSegment s.toList)

end DurableFlow.Path
