import DurableFlow.Text.Ranges

/-!
Digits of all scripts. A decimal digit has a value from 0 to 9 and may be part of a number; the
wider class of digits also has superscripts and circled digits, which have no place value.
-/

namespace DurableFlow.Text

/-- The code points of the digit zero in each script; its nine successors follow it. -/
def decimalZeros : List Nat :=
  [48, 1632, 1776, 1984, 2406, 2534, 2662, 2790, 2918, 3046, 3174, 3302, 3430, 3558, 3664, 3792,
   3872, 4160, 4240, 6112, 6160, 6470, 6608, 6784, 6800, 6992, 7088, 7232, 7248, 42528, 43216,
   43264, 43472, 43504, 43600, 44016, 65296, 66720, 68912, 69734, 69872, 69942, 70096, 70384,
   70736, 70864, 71248, 71360, 71472, 71904, 72016, 72784, 73040, 73120, 92768, 92864, 93008,
   120782, 120792, 120802, 120812, 120822, 123200, 123632, 125264, 130032]

def decimalValueFrom (n : Nat) : List Nat → Option Nat
  | [] => none
  | z :: zs => if n < z then none else if n ≤ z + 9 then some (n - z) else decimalValueFrom n zs

def decimalValue? (c : Char) : Option Nat := decimalValueFrom c.toNat decimalZeros

def isDecimal (c : Char) : Bool := (decimalValue? c).isSome

/-- The zeros of the scripts that came with versions 15 and 16 of the Unicode standard. Numbers are
not read with their digits, but dates may be written with them. -/
def recentZeros : List Nat :=
  [68928, 71376, 71386, 72688, 73552, 118000, 124144, 124401]

/-- A decimal digit of any script, the recent ones included. -/
def isDateDigit (c : Char) : Bool := isDecimal c || (decimalValueFrom c.toNat recentZeros).isSome

def digitRanges : List (Nat × Nat) :=
  [(48, 57), (178, 179), (185, 185), (1632, 1641), (1776, 1785), (1984, 1993), (2406, 2415),
   (2534, 2543), (2662, 2671), (2790, 2799), (2918, 2927), (3046, 3055), (3174, 3183),
   (3302, 3311), (3430, 3439), (3558, 3567), (3664, 3673), (3792, 3801), (3872, 3881),
   (4160, 4169), (4240, 4249), (4969, 4977), (6112, 6121), (6160, 6169), (6470, 6479),
   (6608, 6618), (6784, 6793), (6800, 6809), (6992, 7001), (7088, 7097), (7232, 7241),
   (7248, 7257), (8304, 8304), (8308, 8313), (8320, 8329), (9312, 9320), (9332, 9340),
   (9352, 9360), (9450, 9450), (9461, 9469), (9471, 9471), (10102, 10110), (10112, 10120),
   (10122, 10130), (42528, 42537), (43216, 43225), (43264, 43273), (43472, 43481), (43504, 43513),
   (43600, 43609), (44016, 44025), (65296, 65305), (66720, 66729), (68160, 68163), (68912, 68921),
   (69216, 69224), (69714, 69722), (69734, 69743), (69872, 69881), (69942, 69951), (70096, 70105),
   (70384, 70393), (70736, 70745), (70864, 70873), (71248, 71257), (71360, 71369), (71472, 71481),
   (71904, 71913), (72016, 72025), (72784, 72793), (73040, 73049), (73120, 73129), (92768, 92777),
   (92864, 92873), (93008, 93017), (120782, 120831), (123200, 123209), (123632, 123641),
   (125264, 125273), (127232, 127242), (130032, 130041)]

/-- Decimal digits, superscripts, subscripts and the like. -/
def isDigitLike (c : Char) : Bool := inRanges c.toNat digitRanges

def isAsciiDigit (c : Char) : Bool := '0' ≤ c && c ≤ '9'

def isAsciiLower (c : Char) : Bool := 'a' ≤ c && c ≤ 'z'

def isAsciiUpper (c : Char) : Bool := 'A' ≤ c && c ≤ 'Z'

def isAsciiLetter (c : Char) : Bool := isAsciiLower c || isAsciiUpper c

def isAsciiWord (c : Char) : Bool := isAsciiLetter c || isAsciiDigit c || c = '_'

end DurableFlow.Text
