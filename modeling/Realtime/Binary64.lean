/-!
# Binary floating point in exact arithmetic

A number of the format binary64 is a sign and a magnitude `significand · 2 ^
exponent`, with at most 53 significant bits. Everything here is arithmetic on
natural numbers: an operation finds its exact result as a ratio and rounds it
once, to the nearest magnitude, an exact half going to the even neighbour.

Only finite numbers are values of the type. An operation that would exceed the
largest of them has no result.
-/

namespace Realtime

namespace Binary64

/-! ## Magnitudes -/

/-- `significand · 2 ^ exponent`. The operations keep it in normal form: the
significand has at most 53 bits, and fewer only at the least exponent. -/
structure Magnitude where
  significand : Nat
  exponent : Int
  deriving DecidableEq, Repr

/-- The exponent of the smallest magnitudes. -/
def leastExponent : Int :=
  -1074

/-- The exponent of the largest magnitudes. -/
def greatestExponent : Int :=
  971

/-- One more than the largest significand. -/
def significandLimit : Nat :=
  Nat.pow 2 53

/-- Nothing. -/
def Magnitude.zero : Magnitude :=
  ⟨0, leastExponent⟩

/-- The quotient to the nearest natural number, a half to the even one. -/
def nearest (numerator denominator : Nat) : Nat :=
  let quotient := numerator / denominator
  let twice := 2 * (numerator % denominator)
  if twice < denominator then quotient
  else if denominator < twice then quotient + 1
  else if quotient % 2 = 0 then quotient
  else quotient + 1

/-- The magnitude nearest to a ratio, if it is not too large.

The ratio lies strictly between `2 ^ (n - d - 1)` and `2 ^ (n - d + 1)`, where
`n` and `d` are the binary logarithms of its terms, so that one of two exponents
leaves it 53 bits before the point. -/
def Magnitude.ofRatio (numerator denominator : Nat) : Option Magnitude :=
  if numerator = 0 then some .zero
  else
    let low : Int := max leastExponent ((numerator.log2 : Int) - denominator.log2 - 53)
    let scaled := numerator * Nat.pow 2 (-low).toNat / (denominator * Nat.pow 2 low.toNat)
    let exponent := if scaled < significandLimit then low else low + 1
    let significand :=
      nearest (numerator * Nat.pow 2 (-exponent).toNat) (denominator * Nat.pow 2 exponent.toNat)
    let rounded : Magnitude :=
      if significand = significandLimit then ⟨significandLimit / 2, exponent + 1⟩
      else ⟨significand, exponent⟩
    if rounded.exponent ≤ greatestExponent then some rounded else none

/-- The terms of the magnitude as a ratio. -/
def Magnitude.ratio (a : Magnitude) : Nat × Nat :=
  (a.significand * Nat.pow 2 a.exponent.toNat, Nat.pow 2 (-a.exponent).toNat)

/-- The magnitude nearest to a natural number. -/
def Magnitude.ofNat (n : Nat) : Option Magnitude :=
  ofRatio n 1

/-- The product, rounded. -/
def Magnitude.mul (a b : Magnitude) : Option Magnitude :=
  ofRatio (a.ratio.1 * b.ratio.1) (a.ratio.2 * b.ratio.2)

/-- The quotient, rounded. -/
def Magnitude.div (a b : Magnitude) : Option Magnitude :=
  ofRatio (a.ratio.1 * b.ratio.2) (a.ratio.2 * b.ratio.1)

end Binary64

/-- A finite number of the format binary64. Zero has a sign too. -/
structure Binary64 where
  negative : Bool
  magnitude : Binary64.Magnitude
  deriving DecidableEq, Repr

namespace Binary64

/-! ## From decimals -/

/-- Decimal exponents beyond which no decimal of a hundred digits is finite or
differs from zero. -/
def decimalReach : Nat :=
  1000

/-- The magnitude nearest to `digits · 10 ^ exponent`. Far outside the reach of
the format the answer is known without forming the power. -/
def Magnitude.ofDecimal (digits : Nat) (exponent : Int) : Option Magnitude :=
  if digits = 0 then some .zero
  else
    let size : Int := exponent + (Nat.toDigits 10 digits).length
    if (decimalReach : Int) < size then none
    else if size < -(decimalReach : Int) then some .zero
    else ofRatio (digits * Nat.pow 10 exponent.toNat) (Nat.pow 10 (-exponent).toNat)

/-- The magnitude nearest to a power of ten. -/
def Magnitude.powerOfTen (exponent : Nat) : Option Magnitude :=
  ofRatio (Nat.pow 10 exponent) 1

/-- The greatest power of ten that has a magnitude. -/
def greatestPower : Nat :=
  308

/-- Divides by the greatest power `steps` times, and then by `10 ^ last`; each
quotient is rounded. Nothing stays nothing, however often it is divided. -/
def Magnitude.shrink (last : Nat) : Nat → Magnitude → Option Magnitude
  | 0, a => (powerOfTen last).bind a.div
  | steps + 1, a =>
    if a.significand = 0 then some a
    else ((powerOfTen greatestPower).bind a.div).bind (shrink last steps)

/-- Divides by a power of ten, in as few steps as have a magnitude each. -/
def Magnitude.scaleDown (a : Magnitude) (exponent : Nat) : Option Magnitude :=
  let steps := (exponent - 1) / greatestPower
  a.shrink (exponent - steps * greatestPower) steps

/-- Scales by a power of ten: the magnitude of the power is rounded, and then
the product or quotient with it. This is quicker than rounding once, and may
differ from it in the last place. Beyond the greatest power only nothing can
be scaled up. -/
def Magnitude.scale (a : Magnitude) (exponent : Int) : Option Magnitude :=
  if exponent < 0 then a.scaleDown (-exponent).toNat
  else if exponent.toNat ≤ greatestPower then (powerOfTen exponent.toNat).bind a.mul
  else if a.significand = 0 then some a
  else none

/-- The number nearest to an integer. Every integer of up to a thousand bits is
near a finite number. -/
def ofInt (n : Int) : Option Binary64 :=
  (Magnitude.ofNat n.natAbs).map fun a => ⟨decide (n < 0), a⟩

end Binary64

end Realtime
