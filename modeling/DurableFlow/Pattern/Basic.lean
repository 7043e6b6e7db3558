import DurableFlow.Text.Blank
import DurableFlow.Text.Digit
import DurableFlow.Text.Fold
import DurableFlow.Text.Word

/-!
Text patterns: characters and classes of characters, places in a text, repetition, groups that
remember what they matched, and conditions on what stands before or behind a place.
-/

namespace DurableFlow

/-- Whether letters that differ only in case count as one, and for which letters. -/
inductive CaseRule where
  | exact
  | ascii
  | full
  deriving DecidableEq, Repr

inductive Category where
  | digit
  | word
  | blank
  deriving DecidableEq, Repr

namespace Category

def isAsciiBlank (c : Char) : Bool := c = ' ' || (9 ≤ c.toNat && c.toNat ≤ 13)

/-- Membership, among ASCII characters only or among those of all scripts. -/
def accepts (k : Category) (ascii : Bool) (c : Char) : Bool :=
  match k, ascii with
  | digit, true => Text.isAsciiDigit c
  | digit, false => Text.isDecimal c
  | word, true => Text.isAsciiWord c
  | word, false => Text.isWord c
  | blank, true => isAsciiBlank c
  | blank, false => Text.isBlank c

end Category

/-- A member of a class: a range of code points, or a category or its complement. -/
inductive ClassItem where
  | range (lo hi : Nat)
  | category (k : Category) (ascii negated : Bool)
  deriving DecidableEq, Repr

namespace ClassItem

/-- Whether the code point or, beyond the basic plane, its upper case lies in a range. -/
def inHighRange (lo hi n : Nat) : Bool :=
  let u := Text.upperCode n
  (lo ≤ n && n ≤ hi) || (lo ≤ u && u ≤ hi)

/-- Whether a range has the letter of a lower case form. A single code point beyond the basic plane
stands for itself only. -/
def rangeFolds (rule : CaseRule) (lo hi n : Nat) : Bool :=
  let inPlane : Bool :=
    match rule with
    | .full => (Text.sameLetter n).any fun m => lo ≤ m && m ≤ hi && m ≤ 0xFFFF
    | _ =>
      (lo ≤ n && n ≤ hi && n ≤ 0xFFFF && Text.asciiLowerCode n = n) ||
        (97 ≤ n && n ≤ 122 && lo ≤ n - 32 && n - 32 ≤ hi)
  if hi ≤ 0xFFFF then inPlane
  else if lo = hi then n = lo
  else inPlane || inHighRange lo hi n

def accepts (rule : CaseRule) (c : Char) : ClassItem → Bool
  | range lo hi =>
    match rule with
    | .exact => lo ≤ c.toNat && c.toNat ≤ hi
    | .ascii => rangeFolds .ascii lo hi (Text.asciiLowerCode c.toNat)
    | .full => rangeFolds .full lo hi (Text.lowerCode c.toNat)
  | category k ascii negated =>
    let c : Char :=
      match rule with
      | .exact => c
      | .ascii => Char.ofNat (Text.asciiLowerCode c.toNat)
      | .full => Char.ofNat (Text.lowerCode c.toNat)
    k.accepts ascii c != negated

end ClassItem

/-- What is asked of one character. -/
inductive CharTest where
  | any
  | notLineFeed
  | code (n : Nat) (rule : CaseRule) (negated : Bool)
  | oneOf (items : List ClassItem) (rule : CaseRule) (negated : Bool)
  deriving DecidableEq, Repr

namespace CharTest

def isCode (n : Nat) (rule : CaseRule) (c : Char) : Bool :=
  match rule with
  | .exact => c.toNat = n
  | .ascii => Text.asciiLowerCode c.toNat = Text.asciiLowerCode n
  | .full => (Text.withTwins (Text.lowerCode n)).contains (Text.lowerCode c.toNat)

def accepts (c : Char) : CharTest → Bool
  | any => true
  | notLineFeed => c ≠ '\n'
  | code n rule negated => isCode n rule c != negated
  | oneOf items rule negated => items.any (ClassItem.accepts rule c) != negated

end CharTest

/-- A condition on a place. The start and the end may also be those of lines; a word ends where a
word character meets something else. -/
inductive Anchor where
  | start (lines : Bool)
  | finish (lines : Bool)
  | veryEnd
  | boundary (ascii positive : Bool)
  deriving DecidableEq, Repr

/-- How a repetition chooses its number: as many as possible, as few as possible, or as many as
possible without giving any back. -/
inductive Greed where
  | most
  | least
  | possessive
  deriving DecidableEq, Repr

inductive Pattern where
  | empty
  | char (t : CharTest)
  | anchor (a : Anchor)
  | seq (p q : Pattern)
  | alt (p q : Pattern)
  | group (n : Nat) (p : Pattern)
  | times (p : Pattern) (least : Nat) (most : Option Nat) (greed : Greed)
  | atomic (p : Pattern)
  | ahead (holds : Bool) (p : Pattern)
  | behind (holds : Bool) (width : Nat) (p : Pattern)
  | again (n : Nat) (rule : CaseRule)
  | ifGroup (n : Nat) (yes no : Pattern)
  deriving Repr

end DurableFlow
