import ProgramImage.Number.Digits

/-!
# Binary floating-point numbers

A `Double` is a floating-point number of 64 bits by its bit pattern: a sign, eleven
bits of exponent and fifty-two bits of fraction. Values are computed exactly, on
natural numbers, and rounded once, to the nearest number with ties to the even one.

## Main definitions

* `Double.ofRatio` rounds a quotient of natural numbers.
* `Double.parts` gives a finite magnitude as a natural number times a power of two.
* `Double.mul` and `Double.div` are the rounded product and quotient of finite
  numbers.
-/

namespace ProgramImage

/-- A floating-point number by its bit pattern. -/
structure Double where
  bits : UInt64
  deriving DecidableEq, Repr, Inhabited

namespace Double

/-- One unit of the exponent field. -/
def exponentOne : Nat := 0x10000000000000

/-- The bit pattern of the positive infinity. -/
def infinityBits : Nat := 2047 * exponentOne

/-- The sign bit. -/
def signBit : Nat := 0x8000000000000000

/-- The pattern of a magnitude with a sign. -/
def ofMagnitude (negative : Bool) (magnitude : Nat) : Double :=
  ⟨UInt64.ofNat (negative.toNat * signBit + magnitude)⟩

/-- The infinity of a sign. -/
def infinity (negative : Bool) : Double :=
  ofMagnitude negative infinityBits

/-- The number that is no number. -/
def nan (negative : Bool) : Double :=
  ofMagnitude negative (infinityBits + exponentOne / 2)

/-- Whether the sign bit is set. -/
def negative (x : Double) : Bool :=
  x.bits.toNat / signBit == 1

/-- The pattern without its sign. -/
def magnitude (x : Double) : Nat :=
  x.bits.toNat % signBit

/-- Whether the pattern is a number and not infinite. -/
def isFinite (x : Double) : Bool :=
  x.magnitude < infinityBits

/-- Whether the pattern is no number. -/
def isNaN (x : Double) : Bool :=
  x.magnitude > infinityBits

/-- The magnitude of a finite number as `m * 2 ^ q`, by `m` and `q`. -/
def parts (x : Double) : Nat × Int :=
  let exponent := x.magnitude / exponentOne
  let fraction := x.magnitude % exponentOne
  if exponent = 0 then (fraction, -1074)
  else (fraction + exponentOne, (exponent : Int) - 1075)

/-- The quotient rounded to the nearest whole number, a tie to the even one. -/
def roundDiv (num den : Nat) : Nat :=
  let quotient := num / den
  let remainder := num % den
  if 2 * remainder > den || (2 * remainder == den && quotient % 2 == 1) then quotient + 1
  else quotient

/-- `2 ^ e` when `e` is positive, else one. -/
def twoPow (e : Int) : Nat :=
  Nat.pow 2 e.toNat

/-- The unit in the last place, as a power of two, of a positive quotient. -/
def unitOf (num den : Nat) : Int :=
  let guess : Int := (num.log2 : Int) - (den.log2 : Int)
  let below := num * twoPow (-guess) < den * twoPow guess
  max ((if below then guess - 1 else guess) - 52) (-1074)

/-- The pattern of the positive number nearest to a quotient. A carry out of the
    fraction goes into the exponent, where it belongs. -/
def roundRatio (num den : Nat) : Nat :=
  let unit := unitOf num den
  let significand := roundDiv (num * twoPow (-unit)) (den * twoPow unit)
  min ((unit + 1074).toNat * exponentOne + significand) infinityBits

/-- The number nearest to a quotient with a sign. -/
def ofRatio (negative : Bool) (num den : Nat) : Double :=
  ofMagnitude negative (if num = 0 then 0 else roundRatio num den)

/-- The number nearest to a natural number. -/
def ofNat (n : Nat) : Double :=
  ofRatio false n 1

/-- A finite magnitude as a quotient. -/
def ratio (x : Double) : Nat × Nat :=
  let (m, q) := x.parts
  (m * twoPow q, twoPow (-q))

/-- The rounded product of finite numbers. -/
def mul (x y : Double) : Double :=
  let (a, b) := x.ratio
  let (c, d) := y.ratio
  ofRatio (x.negative != y.negative) (a * c) (b * d)

/-- The rounded quotient of finite numbers, where the divisor is not zero. -/
def div (x y : Double) : Double :=
  let (a, b) := x.ratio
  let (c, d) := y.ratio
  ofRatio (x.negative != y.negative) (a * d) (b * c)

/-- The number with its sign turned. -/
def neg (x : Double) : Double :=
  ofMagnitude (!x.negative) x.magnitude

end Double

end ProgramImage
