/-!
Binary floating point numbers of 64 bits, held exactly. A finite number is a mantissa below `2 ^ 53`
times a power of two, in the one form in which either the mantissa has all its 53 bits or the
exponent is the least one. All arithmetic is done on integers, and rounding happens in one place,
`Binary64.ofRatio`.
-/

namespace DurableFlow

namespace Binary64

/-- The exponent of the smallest positive number. -/
def minExponent : Int := -1074

/-- The exponent of the largest finite number. -/
def maxExponent : Int := 971

/-- The one form of a finite number: all 53 bits of the mantissa are used unless the exponent is the
least one. -/
abbrev IsNormal (mantissa : Nat) (exponent : Int) : Prop :=
  mantissa < Nat.pow 2 53 ∧ minExponent ≤ exponent ∧ exponent ≤ maxExponent ∧
    (Nat.pow 2 52 ≤ mantissa ∨ exponent = minExponent)

end Binary64

inductive Binary64 where
  | nan
  | infinite (negative : Bool)
  | finite (negative : Bool) (mantissa : Nat) (exponent : Int)
      (normal : Binary64.IsNormal mantissa exponent)
  deriving DecidableEq, Repr, Inhabited

namespace Binary64

def zero (negative : Bool) : Binary64 := .finite negative 0 minExponent (by decide)

/-- The integer nearest to `num / den`; of two nearest ones, the even one. -/
def roundQuotient (num den : Nat) : Nat :=
  let q := num / den
  let r := num % den
  if den < 2 * r || (2 * r == den && q % 2 == 1) then q + 1 else q

/-- The fraction `num / den` divided by `2 ^ e`, again as a fraction. -/
def scaleTwo (num den : Nat) (e : Int) : Nat × Nat :=
  if 0 ≤ e then (num, den * Nat.pow 2 e.toNat) else (num * Nat.pow 2 (-e).toNat, den)

/-- The exponent with which `num / den` has a mantissa of 53 bits, or the least exponent. -/
def exponentOf (num den : Nat) : Int :=
  let e : Int := (num.log2 : Int) - (den.log2 : Int) - 53
  let q := scaleTwo num den e
  max (if q.1 / q.2 < Nat.pow 2 53 then e else e + 1) minExponent

/-- The number nearest to `num / den`; a tie goes to the even mantissa. What is too large for the form
of finite numbers is infinite. -/
def ofRatio (negative : Bool) (num den : Nat) : Binary64 :=
  if num = 0 then zero negative
  else
    let e := exponentOf num den
    let q := scaleTwo num den e
    let m := roundQuotient q.1 q.2
    let p := if m = Nat.pow 2 53 then (Nat.pow 2 52, e + 1) else (m, e)
    if h : IsNormal p.1 p.2 then .finite negative p.1 p.2 h else .infinite negative

def ofInt (n : Int) : Binary64 := ofRatio (n < 0) n.natAbs 1

/-- The number nearest to `digits * 10 ^ exponent`. Exponents far outside the range are settled
without computing the power. -/
def ofDecimal (negative : Bool) (digits : Nat) (exponent : Int) : Binary64 :=
  if digits = 0 then zero negative
  else
    let size : Int := (Nat.toDigits 10 digits).length
    if 310 < size + exponent then .infinite negative
    else if size + exponent < -330 then zero negative
    else if 0 ≤ exponent then ofRatio negative (digits * Nat.pow 10 exponent.toNat) 1
    else ofRatio negative digits (Nat.pow 10 (-exponent).toNat)

/-- The magnitude of a finite number as a fraction. -/
def ratio (mantissa : Nat) (exponent : Int) : Nat × Nat :=
  if 0 ≤ exponent then (mantissa * Nat.pow 2 exponent.toNat, 1) else (mantissa, Nat.pow 2 (-exponent).toNat)

def isFinite : Binary64 → Bool
  | .finite .. => true
  | _ => false

/-- The integer part of a finite number, towards zero. -/
def truncate? : Binary64 → Option Int
  | .finite negative m e _ =>
    let q := ratio m e
    let n : Int := q.1 / q.2
    some (if negative then -n else n)
  | _ => none

def isInteger : Binary64 → Bool
  | .finite _ m e _ =>
    let q := ratio m e
    q.1 % q.2 == 0
  | _ => false

def isZero : Binary64 → Bool
  | .finite _ 0 _ _ => true
  | _ => false

/-- Multiplication by a positive whole number, rounded once. -/
def scale (k : Nat) : Binary64 → Binary64
  | .nan => .nan
  | .infinite negative => .infinite negative
  | .finite negative m e _ =>
    let q := ratio m e
    ofRatio negative (q.1 * k) q.2

/-- The order of two numbers; there is none when one of them is not a number. -/
def compare? : Binary64 → Binary64 → Option Ordering
  | .nan, _ => none
  | _, .nan => none
  | .infinite a, .infinite b =>
    some (if a == b then .eq else if a then .lt else .gt)
  | .infinite a, .finite .. => some (if a then .lt else .gt)
  | .finite .., .infinite b => some (if b then .gt else .lt)
  | .finite a m e _, .finite b n f _ =>
    let p := ratio m e
    let q := ratio n f
    let x : Int := if a then -(p.1 * q.2 : Nat) else (p.1 * q.2 : Nat)
    let y : Int := if b then -(q.1 * p.2 : Nat) else (q.1 * p.2 : Nat)
    some (compare x y)

/-- The order of a number and an integer, without rounding the integer. -/
def compareInt? : Binary64 → Int → Option Ordering
  | .nan, _ => none
  | .infinite a, _ => some (if a then .lt else .gt)
  | .finite a m e _, n =>
    let p := ratio m e
    let x : Int := if a then -(p.1 : Int) else p.1
    some (compare x (n * p.2))

/-- Division by a number other than zero, rounded once. -/
def quotient : Binary64 → Binary64 → Binary64
  | .finite a m e _, .finite b n f _ =>
    let p := ratio m e
    let q := ratio n f
    ofRatio (a != b) (p.1 * q.2) (p.2 * q.1)
  | .finite a .., .infinite b => zero (a != b)
  | .infinite a, .finite b .. => .infinite (a != b)
  | _, _ => .nan

/-- Whether a finite number is a whole multiple of another one, without rounding. -/
def isMultiple : Binary64 → Binary64 → Bool
  | .finite _ m e _, .finite _ n f _ =>
    let p := ratio m e
    let q := ratio n f
    p.1 * q.2 % (p.2 * q.1) == 0
  | _, _ => false

end Binary64

end DurableFlow
