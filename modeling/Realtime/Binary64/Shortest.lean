import Realtime.Binary64

/-!
# The shortest decimal of a binary number

Every real number close enough to a magnitude is rounded to it. Among the
decimals in that interval the text of a number uses one with the fewest
digits, and of those the nearest to the number.

For each count of digits only two decimals matter, the neighbours of the number
on the grid of decimals with so many digits: if any point of the grid lies in
the interval, one of these does.
-/

namespace Realtime.Binary64

/-! ## Digits -/

/-- A decimal `digits · 10 ^ exponent`. -/
structure Decimal where
  digits : Nat
  exponent : Int
  deriving DecidableEq, Repr

/-- A magnitude and the ends of the interval that is rounded to it, over one
denominator. The ends belong to the interval when `closed`. -/
structure Surround where
  low : Nat
  value : Nat
  high : Nat
  denominator : Nat
  closed : Bool
  deriving DecidableEq, Repr

/-- The interval reaches half way to both neighbours. Below a power of two the
neighbour is only half as far, unless all magnitudes there are equally far
apart. A half goes to the even significand, so even ones own their ends. -/
def Magnitude.surround (a : Magnitude) : Surround :=
  let up := Nat.pow 2 (a.exponent - 2).toNat
  let below :=
    if a.significand = significandLimit / 2 ∧ leastExponent < a.exponent then 1 else 2
  { low := (4 * a.significand - below) * up
    value := 4 * a.significand * up
    high := (4 * a.significand + 2) * up
    denominator := Nat.pow 2 (2 - a.exponent).toNat
    closed := a.significand % 2 = 0 }

/-- The exponent of the first decimal digit of a magnitude that is not zero.

The decimal logarithm is close to `0.30103` times the binary one; what the cut
of the latter to an integer leaves out is at most one more. -/
def Magnitude.leadingExponent (a : Magnitude) : Int :=
  let guess : Int := ((a.significand.log2 : Int) + a.exponent) * 30103 / 100000
  let next := guess + 1
  let (numerator, denominator) := a.ratio
  if denominator * Nat.pow 10 next.toNat ≤ numerator * Nat.pow 10 (-next).toNat then next else guess

/-- Whether `smaller < larger`, or also equal at a closed end. -/
def inside (closed : Bool) (smaller larger : Nat) : Bool :=
  smaller < larger || (closed && smaller == larger)

/-- The nearer neighbour on the grid of multiples of `10 ^ exponent` that lies
in the interval, if one does. -/
def Surround.onGrid (s : Surround) (exponent : Int) : Option Decimal :=
  let up := Nat.pow 10 (-exponent).toNat
  let unit := s.denominator * Nat.pow 10 exponent.toNat
  let floor := s.value * up / unit
  let lowerFits := inside s.closed (s.low * up) (floor * unit)
  let upperFits := inside s.closed ((floor + 1) * unit) (s.high * up)
  if lowerFits && upperFits then some ⟨nearest (s.value * up) unit, exponent⟩
  else if lowerFits then some ⟨floor, exponent⟩
  else if upperFits then some ⟨floor + 1, exponent⟩
  else none

/-- How many digits always suffice. -/
def mostDigits : Nat :=
  17

/-- The shortest decimal of a magnitude that is not zero. -/
def Magnitude.shortest (a : Magnitude) : Decimal :=
  let first := a.leadingExponent
  ((List.range mostDigits).findSome? fun (more : Nat) => a.surround.onGrid (first - more)).getD
    ⟨0, 0⟩

/-! ## Text -/

/-- `count` zeros. -/
def zeros (count : Nat) : List Char :=
  List.replicate count '0'

/-- The least exponent of the first digit that is still written positionally. -/
def leastPositional : Int :=
  -5

/-- The greatest exponent of the first digit that is still written
positionally. -/
def greatestPositional : Int :=
  15

/-- An exponent with its sign, which is written for positive ones too. -/
def signedExponent (exponent : Int) : List Char :=
  (if exponent < 0 then '-' else '+') :: Nat.toDigits 10 exponent.natAbs

/-- Digits of which the first has the given exponent, with the point in its
place and at least one digit on either side of it. -/
def positional (digits : List Char) (first : Int) : List Char :=
  if first < 0 then '0' :: '.' :: (zeros (-first - 1).toNat ++ digits)
  else
    let whole := first.toNat + 1
    if digits.length ≤ whole then digits ++ zeros (whole - digits.length) ++ ['.', '0']
    else digits.take whole ++ '.' :: digits.drop whole

/-- One digit, a point if more follow, and the exponent. -/
def scientific (digits : List Char) (first : Int) : List Char :=
  match digits with
  | [] => []
  | [only] => only :: 'e' :: signedExponent first
  | head :: others => head :: '.' :: (others ++ 'e' :: signedExponent first)

/-- The digits up to the last one that is not zero. -/
def dropTrailingZeros (digits : List Char) : List Char :=
  (digits.reverse.dropWhile (· = '0')).reverse

/-- The text of a decimal. -/
def Decimal.text (d : Decimal) : List Char :=
  let written := Nat.toDigits 10 d.digits
  let first : Int := d.exponent + written.length - 1
  let digits := dropTrailingZeros written
  if leastPositional ≤ first ∧ first ≤ greatestPositional then positional digits first
  else scientific digits first

/-- The text of a magnitude. -/
def Magnitude.text (a : Magnitude) : List Char :=
  if a.significand = 0 then ['0', '.', '0'] else a.shortest.text

/-- The text of a number. -/
def text (x : Binary64) : List Char :=
  if x.negative then '-' :: x.magnitude.text else x.magnitude.text

end Realtime.Binary64
