import DurableFlow.Pattern.Basic

/-!
Matching a pattern from a place in a text. The possible matches are tried in the order of preference
of the pattern, and the first that lets the rest go on is taken. A repetition goes on only after a
round that made progress, so every match ends.
-/

namespace DurableFlow.Pattern

/-- A place in a text: the characters before it, nearest first, those after it, and its index. -/
structure Place where
  before : List Char := []
  after : List Char
  index : Nat := 0

namespace Place

def advance (p : Place) (c : Char) (rest : List Char) : Place := ⟨c :: p.before, rest, p.index + 1⟩

/-- The place some characters further back, if there are so many. -/
def back? : Nat → Place → Option Place
  | 0, p => some p
  | n + 1, p =>
    match p.before with
    | c :: cs => back? n ⟨cs, c :: p.after, p.index - 1⟩
    | [] => none

/-- Whether a place lies between a word character and something else. -/
def isBoundary (p : Place) (ascii : Bool) : Bool :=
  p.before.head?.any (Category.word.accepts ascii) != p.after.head?.any (Category.word.accepts ascii)

/-- Whether an anchor holds. The one place of an empty text is neither a boundary nor inside. The end
of a text is also in front of a line feed that ends it. -/
def satisfies (p : Place) : Anchor → Bool
  | .start lines => p.before.isEmpty || (lines && p.before.head? = some '\n')
  | .finish lines =>
    p.after.isEmpty || p.after = ['\n'] || (lines && p.after.head? = some '\n')
  | .veryEnd => p.after.isEmpty
  | .boundary ascii positive =>
    (!p.before.isEmpty || !p.after.isEmpty) && p.isBoundary ascii == positive

end Place

/-- A place and the places where groups last started and ended. -/
structure Progress where
  place : Place
  starts : List (Nat × Place) := []
  ends : List (Nat × Place) := []

namespace Progress

def note (n : Nat) (p : Place) (marks : List (Nat × Place)) : List (Nat × Place) :=
  (n, p) :: marks.filter fun m => m.1 ≠ n

def openGroup (n : Nat) (s : Progress) : Progress := { s with starts := note n s.place s.starts }

def closeGroup (n : Nat) (s : Progress) : Progress := { s with ends := note n s.place s.ends }

/-- What a group matched, if it matched. -/
def captured? (s : Progress) (n : Nat) : Option (List Char) :=
  match s.starts.lookup n, s.ends.lookup n with
  | some p, some q =>
    if p.index ≤ q.index then some (p.after.take (q.index - p.index)) else none
  | _, _ => none

def moveTo (s : Progress) (p : Place) : Progress := { s with place := p }

end Progress

/-- What happens from a progress on: the first way that succeeds. -/
abbrev Next := Progress → Option Progress

def orTry (x : Option Progress) (y : Unit → Option Progress) : Option Progress :=
  match x with
  | some s => some s
  | none => y ()

def rounds (round : Progress → Next → Option Progress) : Nat → Progress → Next → Option Progress
  | 0, s, k => k s
  | n + 1, s, k => round s fun s' => rounds round n s' k

/-- As many more rounds as possible. A round that starts where the last one started is not run. -/
def mostRounds (round : Progress → Next → Option Progress) :
    (fuel : Nat) → (left : Option Nat) → (last : Option Nat) → Progress → Next → Option Progress
  | 0, _, _, s, k => k s
  | fuel + 1, left, last, s, k =>
    if left = some 0 || last = some s.place.index then k s
    else
      orTry (round s fun s' =>
        mostRounds round fuel (left.map (· - 1)) (some s.place.index) s' k) fun _ => k s

/-- As few more rounds as possible. -/
def leastRounds (round : Progress → Next → Option Progress) :
    (fuel : Nat) → (left : Option Nat) → (last : Option Nat) → Progress → Next → Option Progress
  | 0, _, _, s, k => k s
  | fuel + 1, left, last, s, k =>
    orTry (k s) fun _ =>
      if left = some 0 || last = some s.place.index then none
      else
        round s fun s' => leastRounds round fuel (left.map (· - 1)) (some s.place.index) s' k

/-- As many more rounds as possible, each by its first match. -/
def allRounds (round : Progress → Option Progress) :
    (fuel : Nat) → (left : Option Nat) → Progress → Progress
  | 0, _, s => s
  | fuel + 1, left, s =>
    if left = some 0 then s
    else
      match round s with
      | none => s
      | some s' =>
        if s'.place.index = s.place.index then s' else allRounds round fuel (left.map (· - 1)) s'

/-- The places behind runs of accepted characters, the farthest first, and the number of characters
of the longest run. -/
def runPlaces (t : CharTest) :
    (left : Option Nat) → List Char → (here : Place) → (passed : List Place) → List Place
  | _, [], here, passed => here :: passed
  | left, c :: cs, here, passed =>
    if left ≠ some 0 && t.accepts c then
      runPlaces t (left.map (· - 1)) cs (here.advance c cs) (here :: passed)
    else here :: passed

/-- The first place from which the rest goes on. -/
def firstPlace (s : Progress) (k : Next) : List Place → Option Progress
  | [] => none
  | p :: ps => orTry (k (s.moveTo p)) fun _ => firstPlace s k ps

/-- The first of some next places from which the rest goes on. -/
def nextPlace (t : CharTest) (s : Progress) (k : Next) :
    (left : Option Nat) → List Char → (here : Place) → Option Progress
  | _, [], here => k (s.moveTo here)
  | left, c :: cs, here =>
    orTry (k (s.moveTo here)) fun _ =>
      if left ≠ some 0 && t.accepts c then nextPlace t s k (left.map (· - 1)) cs (here.advance c cs)
      else none

/-- Repetition of one character, which needs no groups. -/
def charRounds (t : CharTest) (least : Nat) (most : Option Nat) (greed : Greed) (s : Progress)
    (k : Next) : Option Progress :=
  match greed with
  | .most =>
    let places := runPlaces t most s.place.after s.place []
    firstPlace s k (places.take (places.length - least))
  | .possessive =>
    let places := runPlaces t most s.place.after s.place []
    if places.length ≤ least then none else (places.head?.map s.moveTo).bind k
  | .least =>
    let places := runPlaces t (some least) s.place.after s.place []
    if places.length ≤ least then none
    else
      match places.head? with
      | none => none
      | some p => nextPlace t s k (most.map (· - least)) p.after p

/-- Whether a character counts as the one that a group matched. -/
def sameChar (rule : CaseRule) (a b : Char) : Bool :=
  match rule with
  | .exact => a = b
  | .ascii => Text.asciiLowerCode a.toNat = Text.asciiLowerCode b.toNat
  | .full => Text.lowerCode a.toNat = Text.lowerCode b.toNat

def behindText? (rule : CaseRule) : List Char → Place → Option Place
  | [], p => some p
  | a :: as, p =>
    match p.after with
    | c :: cs => if sameChar rule a c then behindText? rule as (p.advance c cs) else none
    | [] => none

/-- Runs a pattern and then what is next. A text has as many places as its size and one more. -/
def run (size : Nat) : Pattern → Progress → Next → Option Progress
  | .empty, s, k => k s
  | .char t, s, k =>
    match s.place.after with
    | c :: cs => if t.accepts c then k (s.moveTo (s.place.advance c cs)) else none
    | [] => none
  | .anchor a, s, k => if s.place.satisfies a then k s else none
  | .seq p q, s, k => run size p s fun s' => run size q s' k
  | .alt p q, s, k => orTry (run size p s k) fun _ => run size q s k
  | .group n p, s, k => run size p (s.openGroup n) fun s' => k (s'.closeGroup n)
  | .times (.char t) least most greed, s, k => charRounds t least most greed s k
  | .times p least most greed, s, k =>
    let more := most.map (· - least)
    match greed with
    | .most =>
      rounds (run size p) least s fun s' =>
        mostRounds (run size p) (size - s'.place.index + 2) more none s' k
    | .least =>
      rounds (run size p) least s fun s' =>
        leastRounds (run size p) (size - s'.place.index + 2) more none s' k
    | .possessive =>
      let once (s : Progress) : Option Progress := run size p s some
      (rounds (fun s k => (once s).bind k) least s some).bind fun s' =>
        k (allRounds once (size - s'.place.index + 2) more s')
  | .atomic p, s, k => (run size p s some).bind k
  | .ahead holds p, s, k =>
    match run size p s some with
    | some s' => if holds then k (s'.moveTo s.place) else none
    | none => if holds then none else k s
  | .behind holds width p, s, k =>
    match (s.place.back? width).bind fun place => run size p (s.moveTo place) some with
    | some s' => if holds then k (s'.moveTo s.place) else none
    | none => if holds then none else k s
  | .again n rule, s, k =>
    match s.captured? n with
    | some text => (behindText? rule text s.place).bind fun p => k (s.moveTo p)
    | none => none
  | .ifGroup n yes no, s, k => if (s.captured? n).isSome then run size yes s k else run size no s k

def searchFrom (p : Pattern) (size : Nat) : List Char → Place → Bool
  | [], here => (run size p ⟨here, [], []⟩ some).isSome
  | c :: cs, here =>
    (run size p ⟨here, [], []⟩ some).isSome || searchFrom p size cs (here.advance c cs)

def search (p : Pattern) (s : String) : Bool :=
  let cs := s.toList
  searchFrom p cs.length cs { after := cs }

end DurableFlow.Pattern
