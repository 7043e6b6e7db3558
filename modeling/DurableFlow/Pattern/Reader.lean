import DurableFlow.Decimal.Reading
import DurableFlow.Outcome
import DurableFlow.Pattern.Basic
import DurableFlow.Text.CharacterName
import DurableFlow.Text.Identifier

/-!
Reading patterns from text. A text that is no pattern is refused. A pattern knows its groups by number
and some also by name, and looks behind only by a fixed number of characters.
-/

namespace DurableFlow.Pattern

/-- A character, or a character behind a backslash; a backslash at the end stands alone. -/
inductive Token where
  | plain (c : Char)
  | escaped (c : Char)
  | dangling
  deriving DecidableEq, Repr

def Token.text : Token → List Char
  | plain c => [c]
  | escaped c => ['\\', c]
  | dangling => ['\\']

def tokens : List Char → List Token
  | [] => []
  | '\\' :: [] => [.dangling]
  | '\\' :: c :: cs => .escaped c :: tokens cs
  | c :: cs => .plain c :: tokens cs

/-- The least and the greatest number of characters that a pattern matches. -/
structure Width where
  least : Nat
  most : Option Nat
  deriving DecidableEq, Repr

namespace Width

def zero : Width := ⟨0, some 0⟩

def one : Width := ⟨1, some 1⟩

def add (a b : Width) : Width := ⟨a.least + b.least, do return (← a.most) + (← b.most)⟩

def join (a b : Width) : Width := ⟨min a.least b.least, do return max (← a.most) (← b.most)⟩

def times (w : Width) (least : Nat) (most : Option Nat) : Width :=
  ⟨w.least * least,
    match w.most, most with
    | some 0, _ => some 0
    | _, some 0 => some 0
    | some n, some m => some (n * m)
    | _, _ => none⟩

/-- The number of characters, if it is always the same and not too large. -/
def fixed? (w : Width) : Option Nat :=
  if w.most = some w.least && w.least < Nat.pow 2 32 then some w.least else none

end Width

/-- What a part of a pattern is told about letters, lines and blanks. -/
structure Flags where
  ignoreCase : Bool := false
  multiline : Bool := false
  dotAll : Bool := false
  verbose : Bool := false
  ascii : Bool := false
  deriving DecidableEq, Repr

def Flags.caseRule (f : Flags) : CaseRule :=
  if !f.ignoreCase then .exact else if f.ascii then .ascii else .full

/-- What was read so far: the flags of the whole pattern, the groups with their names and, when they
are closed, their widths, and what is still to be read. -/
structure Reading where
  rest : List Token
  flags : Flags := {}
  unicode : Bool := false
  plainOnly : Bool := false
  names : List (String × Nat) := []
  widths : List (Option Width) := [none]
  lookbehind : Option Nat := none
  wanted : List Nat := []
  refusedLater : Bool := false

abbrev Reader := StateT Reading (Except Fault)

def refuse {α : Type} : Reader α := throw .badSchema

def peek : Reader (Option Token) := return (← get).rest.head?

def drop : Reader Unit := modify fun r => { r with rest := r.rest.tail }

def take : Reader (Option Token) := do
  let t ← peek
  drop
  return t

/-- Takes a character if it is next. -/
def accept (c : Char) : Reader Bool := do
  if (← peek) = some (.plain c) then
    drop
    return true
  else return false

def require (c : Char) : Reader Unit := do
  if !(← accept c) then refuse

/-- The plain characters at the head that satisfy `p`, at most so many. -/
def plainRun (p : Char → Bool) : Nat → List Token → List Char
  | n + 1, .plain c :: ts => if p c then c :: plainRun p n ts else []
  | _, _ => []

def takeRun (p : Char → Bool) (most : Nat) : Reader (List Char) := do
  let cs := plainRun p most (← get).rest
  modify fun r => { r with rest := r.rest.drop cs.length }
  return cs

/-- The text in front of a closing character, and what follows that. -/
def splitAt? (closing : Char) : List Token → Option (List Char × List Token)
  | [] => none
  | t :: ts =>
    if t = .plain closing then some ([], ts)
    else (splitAt? closing ts).map fun p => (t.text ++ p.1, p.2)

/-- A text up to a closing character, which is taken too. The text is not empty. -/
def takeUntil (closing : Char) : Reader String := do
  match splitAt? closing (← get).rest with
  | some (c :: cs, rest) =>
    modify fun r => { r with rest := rest }
    return String.ofList (c :: cs)
  | _ => refuse

/-- A part of a pattern: what it is, its width, and what may follow it. -/
inductive ItemKind where
  | plain
  | anchor
  | repetition
  deriving DecidableEq, Repr

structure Item where
  pattern : Pattern
  width : Width := Width.one
  kind : ItemKind := .plain

/-- Parts one after the other, given from the last to the first. -/
def joinItems (items : List Item) : Pattern × Width :=
  items.foldl (fun acc item =>
    (match acc.1 with
      | .empty => item.pattern
      | p => .seq item.pattern p, item.width.add acc.2)) (.empty, Width.zero)

/-! Numbers and escapes. -/

def isOctal (c : Char) : Bool := '0' ≤ c && c ≤ '7'

def isHex (c : Char) : Bool :=
  Text.isAsciiDigit c || ('a' ≤ c && c ≤ 'f') || ('A' ≤ c && c ≤ 'F')

def digitOf (c : Char) : Nat :=
  if Text.isAsciiDigit c then c.toNat - 48 else if 'a' ≤ c then c.toNat - 87 else c.toNat - 55

def valueIn (base : Nat) (cs : List Char) : Nat := cs.foldl (fun n c => base * n + digitOf c) 0

def hexCode (digits : Nat) : Reader Nat := do
  let cs ← takeRun isHex digits
  if cs.length ≠ digits || 0x10FFFF < valueIn 16 cs then refuse
  return valueIn 16 cs

def octalCode (cs : List Char) : Reader Nat := do
  if 255 < valueIn 8 cs then refuse
  return valueIn 8 cs

/-- The category of an escape letter, and whether its complement is meant. -/
def category? (c : Char) : Option (Category × Bool) :=
  if c = 'd' then some (.digit, false)
  else if c = 'D' then some (.digit, true)
  else if c = 'w' then some (.word, false)
  else if c = 'W' then some (.word, true)
  else if c = 's' then some (.blank, false)
  else if c = 'S' then some (.blank, true)
  else none

def control? (c : Char) : Option Nat :=
  if c = 'a' then some 7
  else if c = 'f' then some 12
  else if c = 'n' then some 10
  else if c = 'r' then some 13
  else if c = 't' then some 9
  else if c = 'v' then some 11
  else none

/-- A code point in braces, by the name of its character. -/
def namedCode : Reader Nat := do
  require '\x7b'
  match Text.codeNamed? (← takeUntil '\x7d') with
  | some n => return n
  | none => refuse

/-- The code point of an escape that means the same inside and outside of a class; letters without a
meaning are refused. -/
def escapedCode (c : Char) : Reader Nat := do
  match control? c with
  | some n => return n
  | none =>
    if c = 'x' then hexCode 2
    else if c = 'u' then hexCode 4
    else if c = 'U' then hexCode 8
    else if c = 'N' then namedCode
    else if Text.isAsciiLetter c || Text.isAsciiDigit c then refuse
    else return c.toNat

/-! Classes. -/

/-- A member of a class: a category, or a code point that may start a range. -/
inductive Member where
  | category (k : Category) (negated : Bool)
  | code (n : Nat)
  deriving DecidableEq, Repr

def classMember : Token → Reader Member
  | .plain c => return .code c.toNat
  | .dangling => refuse
  | .escaped c => do
    match category? c with
    | some (k, negated) => return .category k negated
    | none =>
      if c = 'b' then return .code 8
      else if isOctal c then
        let more ← takeRun isOctal 2
        return .code (← octalCode (c :: more))
      else return .code (← escapedCode c)

def Member.item (flags : Flags) : Member → ClassItem
  | .category k negated => .category k flags.ascii negated
  | .code n => .range n n

/-- The members of a class up to its closing bracket, which is plain in the first place. -/
def classItems (flags : Flags) : (fuel : Nat) → (done : List ClassItem) → Reader (List ClassItem)
  | 0, _ => refuse
  | fuel + 1, done => do
    match ← take with
    | none => refuse
    | some t =>
      if t = .plain ']' && !done.isEmpty then return done.reverse
      else
        let lo ← classMember t
        if ← accept '-' then
          match ← take with
          | none => refuse
          | some u =>
            if u = .plain ']' then return (.range 45 45 :: lo.item flags :: done).reverse
            else
              match lo, ← classMember u with
              | .code a, .code b =>
                if b < a then refuse else classItems flags fuel (.range a b :: done)
              | _, _ => refuse
        else classItems flags fuel (lo.item flags :: done)

/-- A class behind its opening bracket. One code point is a character and no class. -/
def charClass (flags : Flags) : Reader CharTest := do
  let negated ← accept '^'
  let items ← classItems flags ((← get).rest.length + 1) []
  match items.eraseDups with
  | [.range lo hi] =>
    if lo = hi then return .code lo flags.caseRule negated
    else return .oneOf [.range lo hi] flags.caseRule negated
  | items => return .oneOf items flags.caseRule negated

/-! Groups. -/

/-- Whether a group with that number is closed. -/
def isClosed (n : Nat) : Reader Bool := return ((← get).widths[n]?.bind id).isSome

/-- Inside a look behind, only groups that were closed in front of it may be named. -/
def checkLookbehind (n : Nat) : Reader Unit := do
  match (← get).lookbehind with
  | none => pure ()
  | some limit => if !(← isClosed n) || limit ≤ n then refuse

def reference (flags : Flags) (n : Nat) : Reader Item := do
  match (← get).widths[n]?.bind id with
  | none => refuse
  | some width =>
    checkLookbehind n
    return { pattern := .again n flags.caseRule, width := width }

/-- A digit behind a backslash: three octal digits are a code point, else one or two digits are the
number of a group. -/
def numberEscape (flags : Flags) (c : Char) : Reader Item := do
  let literal (n : Nat) : Item := { pattern := .char (.code n flags.caseRule false) }
  if c = '0' then
    let more ← takeRun isOctal 2
    return literal (valueIn 8 more)
  else
    match ← takeRun Text.isAsciiDigit 1 with
    | [d] =>
      let rest := (← get).rest
      let third := if isOctal c && isOctal d then plainRun isOctal 1 rest else []
      match third with
      | [e] =>
        drop
        return literal (← octalCode [c, d, e])
      | _ => reference flags (valueIn 10 [c, d])
    | _ => reference flags (digitOf c)

/-- What a backslash and a character mean outside of classes. -/
def escape (flags : Flags) (c : Char) : Reader Item := do
  let anchor (a : Anchor) : Item := { pattern := .anchor a, width := Width.zero, kind := .anchor }
  if c = 'A' then return anchor (.start false)
  else if c = 'b' then return anchor (.boundary flags.ascii true)
  else if c = 'B' then return anchor (.boundary flags.ascii false)
  else if c = 'Z' then return anchor .veryEnd
  else if Text.isAsciiDigit c then numberEscape flags c
  else
    match category? c with
    | some (k, negated) =>
      return { pattern := .char (.oneOf [.category k flags.ascii negated] flags.caseRule false) }
    | none => return { pattern := .char (.code (← escapedCode c) flags.caseRule false) }

/-- The flags that a group turns on or off. -/
structure FlagSet where
  letters : List Char := []

def flagLetters : List Char := ['i', 'm', 's', 'x', 'a', 't', 'u']

def FlagSet.has (s : FlagSet) (c : Char) : Bool := s.letters.contains c

/-- The flag letters up to one of the given characters. The flags for ASCII and for all scripts
exclude each other. -/
def flagRun (closing : List Char) : (fuel : Nat) → (s : FlagSet) → Reader (FlagSet × Char)
  | 0, _ => refuse
  | fuel + 1, s => do
    match ← take with
    | some (.plain c) =>
      if closing.contains c then return (s, c)
      else if !flagLetters.contains c || (c = 'a' && s.has 'u') || (c = 'u' && s.has 'a') then refuse
      else flagRun closing fuel ⟨s.letters ++ [c]⟩
    | _ => refuse

/-- Flags of a group, behind its question mark: for the whole pattern when the group is closed at
once, else for the group. -/
inductive FlagGroup where
  | whole (on : FlagSet)
  | inside (on off : FlagSet)

def flagGroup (first : Char) : Reader FlagGroup := do
  let fuel := (← get).rest.length + 1
  let (on, closing) ←
    if first = '-' then pure (({} : FlagSet), '-')
    else if flagLetters.contains first then flagRun [')', '-', ':'] fuel ⟨[first]⟩
    else refuse
  if closing = ')' then return .whole on
  if on.has 't' then refuse
  if closing = ':' then return .inside on {}
  let (off, _) ← flagRun [':'] fuel {}
  if off.letters.isEmpty || off.has 'a' || off.has 'u' || off.has 't' then refuse
  if on.letters.any off.has then refuse
  return .inside on off

def Flags.change (f : Flags) (on off : FlagSet) : Flags where
  ignoreCase := (f.ignoreCase || on.has 'i') && !off.has 'i'
  multiline := (f.multiline || on.has 'm') && !off.has 'm'
  dotAll := (f.dotAll || on.has 's') && !off.has 's'
  verbose := (f.verbose || on.has 'x') && !off.has 'x'
  ascii := (f.ascii || on.has 'a') && !on.has 'u'

/-- Turns flags of the whole pattern on. -/
def setWhole (on : FlagSet) : Reader Unit :=
  modify fun r =>
    { r with
      flags := { r.flags.change on {} with ascii := r.flags.ascii || on.has 'a' }
      unicode := r.unicode || on.has 'u'
      plainOnly := r.plainOnly || on.has 't' }

/-- The number of a new group, under a name that is not taken. -/
def newGroup (name : Option String) : Reader Nat := do
  let r ← get
  let n := r.widths.length
  match name with
  | none => set { r with widths := r.widths ++ [none] }
  | some s =>
    if (r.names.lookup s).isSome then refuse
    set { r with widths := r.widths ++ [none], names := (s, n) :: r.names }
  return n

def endGroup (n : Nat) (w : Width) : Reader Unit :=
  modify fun r => { r with widths := r.widths.set n (some w) }

def groupName (closing : Char) : Reader String := do
  let name ← takeUntil closing
  if Text.isName name then return name else refuse

/-- The group that a condition names; a number may be that of a later group. -/
def conditionGroup : Reader Nat := do
  let name ← takeUntil ')'
  if Text.isName name then
    match (← get).names.lookup name with
    | some n => return n
    | none => refuse
  else
    match Decimal.readInt name with
    | .ok n =>
      if n ≤ 0 then refuse
      modify fun r => { r with wanted := n.toNat :: r.wanted }
      return n.toNat
    | .error _ => refuse

/-! Repetition. -/

/-- One more than the largest number of repetitions. -/
def repetitionLimit : Nat := 4294967295

def repetitionCount (cs : List Char) : Reader Nat := do
  if Decimal.maxDigits < cs.length then throw (.badValue (Decimal.tooManyDigits cs.length))
  if repetitionLimit ≤ valueIn 10 cs then throw .tooLarge
  return valueIn 10 cs

/-- The bounds in braces, if they are well formed; else nothing is taken. -/
def bounds? : Reader (Option (Nat × Option Nat)) := do
  let r ← get
  if r.rest.head? = some (.plain '\x7d') then return none
  let many := r.rest.length
  let least ← takeRun Text.isAsciiDigit many
  let most ← if ← accept ',' then takeRun Text.isAsciiDigit many else pure least
  if !(← accept '\x7d') then
    set r
    return none
  if (← peek) = some .dangling then refuse
  let lo ← if least.isEmpty then pure 0 else repetitionCount least
  if most.isEmpty then return some (lo, none)
  let hi ← repetitionCount most
  if hi < lo then refuse
  return some (lo, some hi)

def repetition? (c : Char) : Reader (Option (Nat × Option Nat)) :=
  if c = '*' then return some (0, none)
  else if c = '+' then return some (1, none)
  else if c = '?' then return some (0, some 1)
  else bounds?

/-- The mark behind a repetition that says how it chooses its number. -/
def greedMark : Reader Greed := do
  match ← peek with
  | some (.plain '?') =>
    drop
    return .least
  | some (.plain '+') =>
    drop
    return .possessive
  | _ => return .most

/-- Repeats the last part, which may be neither an anchor nor a repetition. -/
def repeated (item : Item) (least : Nat) (most : Option Nat) : Reader Item := do
  if item.kind ≠ .plain then refuse
  let greed ← greedMark
  modify fun r => { r with refusedLater := r.refusedLater || r.plainOnly }
  return { pattern := .times item.pattern least most greed
           width := item.width.times least most
           kind := .repetition }

def afterLine : List Token → List Token
  | [] => []
  | .dangling :: ts => .dangling :: ts
  | t :: ts => if t = .plain '\n' then ts else afterLine ts

/-- Whether two parts are the same character or the same anchor. -/
def sameUnit : Pattern → Pattern → Bool
  | .char t, .char u => t = u
  | .anchor a, .anchor b => a = b
  | _, _ => false

/-- The members of a class that is the only part. -/
def classOf? (rule : CaseRule) : List Pattern → Option (List ClassItem)
  | [.char (.code n r false)] => if r = rule then some [.range n n] else none
  | [.char (.oneOf items r false)] => if r = rule then some items else none
  | _ => none

/-- Alternatives, given by their parts. Those that begin alike share their beginning, and those of one
character each form a class. -/
def joinBranches (rule : CaseRule) : (fuel : Nat) → List (List Pattern) → Pattern
  | 0, _ => .empty
  | fuel + 1, branches =>
    let inTurn : Pattern :=
      match (branches.map fun ps => ps.foldr .seq .empty).reverse with
      | [] => .empty
      | last :: earlier => earlier.foldl (fun acc p => .alt p acc) last
    match branches with
    | (p :: _) :: _ :: _ =>
      if branches.all fun ps => ps.head?.any (sameUnit p) then
        .seq p (joinBranches rule fuel (branches.map List.tail))
      else
        match branches.mapM (classOf? rule) with
        | some classes => .char (.oneOf classes.flatten rule false)
        | none => inTurn
    | _ => inTurn

mutual

def alternatives : (fuel : Nat) → (scope : Option Flags) → (first : Bool) → Reader (Pattern × Width)
  | 0, _, _ => refuse
  | fuel + 1, scope, first => do
    match ← branches fuel scope first with
    | [items] => return joinItems items
    | found =>
      let rule := (scope.getD (← get).flags).caseRule
      let widths := found.map fun items => (joinItems items).2
      let most := (found.map List.length).foldl max 0
      return (joinBranches rule (most + 1) (found.map fun items => (items.map (·.pattern)).reverse),
        widths.foldl Width.join (widths.headD Width.zero))

/-- The parts of each alternative. -/
def branches : (fuel : Nat) → (scope : Option Flags) → (first : Bool) → Reader (List (List Item))
  | 0, _, _ => refuse
  | fuel + 1, scope, first => do
    let items ← parts fuel scope first []
    if ← accept '|' then return items :: (← branches fuel scope false)
    else return [items]

/-- Parts one after the other, the last one first. Without a scope of their own, they have the flags
of the whole pattern, which may be set in front of the first part. -/
def parts : (fuel : Nat) → (scope : Option Flags) → (first : Bool) → (done : List Item) →
    Reader (List Item)
  | 0, _, _, _ => refuse
  | fuel + 1, scope, first, done => do
    let flags := scope.getD (← get).flags
    match ← peek with
    | none => return done
    | some .dangling => refuse
    | some (.escaped c) =>
      drop
      let item ← escape flags c
      parts fuel scope first (item :: done)
    | some (.plain c) =>
      if c = '|' || c = ')' then return done
      drop
      if flags.verbose && Category.isAsciiBlank c then parts fuel scope first done
      else if flags.verbose && c = '#' then
        modify fun r => { r with rest := afterLine r.rest }
        parts fuel scope first done
      else if c = '[' then
        let t ← charClass flags
        parts fuel scope first ({ pattern := .char t } :: done)
      else if c = '*' || c = '+' || c = '?' || c = '\x7b' then
        match ← repetition? c with
        | none =>
          parts fuel scope first ({ pattern := .char (.code c.toNat flags.caseRule false) } :: done)
        | some (least, most) =>
          match done with
          | [] => refuse
          | item :: earlier =>
            let item ← repeated item least most
            parts fuel scope first (item :: earlier)
      else if c = '.' then
        let t : CharTest := if flags.dotAll then .any else .notLineFeed
        parts fuel scope first ({ pattern := .char t } :: done)
      else if c = '^' || c = '$' then
        let a : Anchor := if c = '^' then .start flags.multiline else .finish flags.multiline
        parts fuel scope first
          ({ pattern := .anchor a, width := Width.zero, kind := .anchor } :: done)
      else if c = '(' then
        match ← bracketed fuel flags (first && done.isEmpty) with
        | none => parts fuel scope first done
        | some item => parts fuel scope first (item :: done)
      else parts fuel scope first ({ pattern := .char (.code c.toNat flags.caseRule false) } :: done)

/-- A group behind its opening bracket; a comment and flags of the whole pattern give no part. -/
def bracketed : (fuel : Nat) → (flags : Flags) → (mayFlag : Bool) → Reader (Option Item)
  | 0, _, _ => refuse
  | fuel + 1, flags, mayFlag => do
    if !(← accept '?') then return some (← captured fuel flags none)
    match ← take with
    | some (.plain c) =>
      if c = 'P' then
        if ← accept '<' then
          let name ← groupName '>'
          return some (← captured fuel flags (some name))
        require '='
        match (← get).names.lookup (← groupName ')') with
        | some n => return some (← reference flags n)
        | none => refuse
      else if c = ':' then return some (← enclosed fuel flags)
      else if c = '#' then
        match splitAt? ')' (← get).rest with
        | none => refuse
        | some (_, rest) =>
          modify fun r => { r with rest := rest }
          return none
      else if c = '=' || c = '!' then
        let (p, _) ← alternatives fuel (some flags) false
        require ')'
        return some { pattern := .ahead (c = '=') p, width := Width.zero }
      else if c = '<' then
        match ← take with
        | some (.plain d) =>
          if d ≠ '=' && d ≠ '!' then refuse
          let outer := (← get).lookbehind
          modify fun r => { r with lookbehind := some (outer.getD r.widths.length) }
          let (p, w) ← alternatives fuel (some flags) false
          modify fun r => { r with lookbehind := outer }
          require ')'
          match w.fixed? with
          | some n => return some { pattern := .behind (d = '=') n p, width := Width.zero }
          | none =>
            modify fun r => { r with refusedLater := true }
            return some { pattern := .empty, width := Width.zero }
        | _ => refuse
      else if c = '(' then
        let n ← conditionGroup
        checkLookbehind n
        let (yes, w) := joinItems (← parts fuel (some flags) false [])
        if ← accept '|' then
          let (no, v) := joinItems (← parts fuel (some flags) false [])
          require ')'
          return some { pattern := .ifGroup n yes no, width := w.join v }
        require ')'
        return some { pattern := .ifGroup n yes .empty, width := w.join Width.zero }
      else if c = '>' then
        let item ← enclosed fuel flags
        return some { item with pattern := .atomic item.pattern }
      else
        match ← flagGroup c with
        | .whole on =>
          if !mayFlag then refuse
          setWhole on
          return none
        | .inside on off => return some (← enclosed fuel (flags.change on off))
    | _ => refuse

def captured : (fuel : Nat) → (flags : Flags) → (name : Option String) → Reader Item
  | 0, _, _ => refuse
  | fuel + 1, flags, name => do
    let n ← newGroup name
    let (p, w) ← alternatives fuel (some flags) false
    require ')'
    endGroup n w
    return { pattern := .group n p, width := w }

def enclosed : (fuel : Nat) → (flags : Flags) → Reader Item
  | 0, _ => refuse
  | fuel + 1, flags => do
    let (p, w) ← alternatives fuel (some flags) false
    require ')'
    return { pattern := p, width := w }

end

/-- A whole pattern: nothing is left, every group that a condition names exists, and the pattern may
be run. -/
def whole (fuel : Nat) : Reader Pattern := do
  let (p, _) ← alternatives fuel none true
  let r ← get
  if r.flags.ascii && r.unicode then
    throw (.badValue "ASCII and UNICODE flags are incompatible")
  if !r.rest.isEmpty || r.refusedLater || r.wanted.any (fun n => r.widths.length ≤ n) then refuse
  return p

def parse (s : String) : Except Fault Pattern :=
  let ts := tokens s.toList
  ((whole (5 * ts.length + 5)).run { rest := ts }).map (·.1)

end DurableFlow.Pattern
