import DurableFlow.Decimal.Binary64

/-!
The shortest decimal that reads back as a given binary number, and its text. Grids of one, two and
more significant digits are tried in turn; on each grid only the two neighbours of the number are
candidates, and of two that read back the nearer one is taken.
-/

namespace DurableFlow.Decimal

/-- The fraction `num / den` divided by `10 ^ k`, again as a fraction. -/
def scaleTen (num den : Nat) (k : Int) : Nat × Nat :=
  if 0 ≤ k then (num, den * Nat.pow 10 k.toNat) else (num * Nat.pow 10 (-k).toNat, den)

/-- The exponent `k` with `10 ^ k ≤ num / den < 10 ^ (k + 1)`. -/
def magnitude (num den : Nat) : Int :=
  let k : Int := ((Nat.toDigits 10 num).length : Int) - (Nat.toDigits 10 den).length
  let q := scaleTen num den k
  if q.1 < q.2 then k - 1 else k

/-- Whether `digits * 10 ^ k` rounds to the positive number with this mantissa and exponent. -/
def readsBack (mantissa : Nat) (exponent : Int) (digits : Nat) (k : Int) : Bool :=
  match Binary64.ofDecimal false digits k with
  | .finite false m e _ => m == mantissa && e == exponent
  | _ => false

/-- The better of the two neighbours of the number on the grid `10 ^ k`, if one reads back. -/
def onGrid? (mantissa : Nat) (exponent k : Int) : Option Nat :=
  let v := Binary64.ratio mantissa exponent
  let q := scaleTen v.1 v.2 k
  let below := q.1 / q.2
  let r := q.1 % q.2
  match readsBack mantissa exponent below k, readsBack mantissa exponent (below + 1) k with
  | true, true =>
    some (if 2 * r < q.2 || (2 * r == q.2 && below % 2 == 0) then below else below + 1)
  | true, false => some below
  | false, true => some (below + 1)
  | false, false => none

/-- All digits of the number, whatever their count. -/
def exact (mantissa : Nat) (exponent : Int) : Nat × Int :=
  if 0 ≤ exponent then (mantissa * Nat.pow 2 exponent.toNat, 0)
  else (mantissa * Nat.pow 5 (-exponent).toNat, exponent)

/-- Tries the grids from `k` downwards, at most `fuel` of them, and then takes all digits. -/
def shortestFrom (mantissa : Nat) (exponent : Int) : (fuel : Nat) → (k : Int) → Nat × Int
  | 0, _ => exact mantissa exponent
  | fuel + 1, k =>
    match onGrid? mantissa exponent k with
    | some digits => (digits, k)
    | none => shortestFrom mantissa exponent fuel (k - 1)

/-- Digits and exponent of the shortest decimal of a positive finite number. Seventeen digits are
always enough. -/
def shortest (mantissa : Nat) (exponent : Int) : Nat × Int :=
  let v := Binary64.ratio mantissa exponent
  shortestFrom mantissa exponent 17 (magnitude v.1 v.2)

/-- How numbers that are not finite are written. -/
structure SpecialNames where
  nan : String
  infinity : String

/-- The digits of a positive number without its trailing zeros, which must not be all of them. -/
def significant (digits : Nat) : List Char :=
  ((Nat.toDigits 10 digits).reverse.dropWhile (· == '0')).reverse

def zeros (n : Nat) : List Char := List.replicate n '0'

/-- Writes digits whose point stands after the first `point` of them without an exponent. -/
def positional (ds : List Char) (point : Int) : List Char :=
  if point ≤ 0 then '0' :: '.' :: (zeros (-point).toNat ++ ds)
  else
    let n := point.toNat
    if ds.length ≤ n then ds ++ zeros (n - ds.length) ++ ['.', '0']
    else ds.take n ++ '.' :: ds.drop n

/-- Writes digits with one of them before the point and an exponent of at least two digits. -/
def scientific (ds : List Char) (point : Int) : List Char :=
  let e := point - 1
  let head := ds.take 1 ++ (if ds.length ≤ 1 then [] else '.' :: ds.drop 1)
  let size := Nat.toDigits 10 e.natAbs
  head ++ 'e' :: (if e < 0 then '-' else '+') :: (zeros (2 - size.length) ++ size)

/-- Numbers from `1e-4` up to below `1e16` are written without an exponent. -/
def magnitudeText (mantissa : Nat) (exponent : Int) : List Char :=
  if mantissa = 0 then ['0', '.', '0']
  else
    let d := shortest mantissa exponent
    let point : Int := (Nat.toDigits 10 d.1).length + d.2
    let ds := significant d.1
    if -4 < point && point ≤ 16 then positional ds point else scientific ds point

/-- The text of a number: the fewest digits that read back, and always a point or an exponent. -/
def text (names : SpecialNames) : Binary64 → String
  | .nan => names.nan
  | .infinite negative => (if negative then "-" else "") ++ names.infinity
  | .finite negative m e _ => (if negative then "-" else "") ++ String.ofList (magnitudeText m e)

end DurableFlow.Decimal
