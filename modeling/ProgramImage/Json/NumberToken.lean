import ProgramImage.Json.Node

/-!
# Number tokens

A number is whole when it has neither a point nor an exponent and fits sixty-four
bits; only minus zero is not, as it has a sign to keep. Every other number is a
floating-point number: the digits that fit sixty-four bits, scaled by a power of ten.
The scaling rounds the digits, the power, and their product or quotient. A number
that rounds to infinity is out of range.
-/

namespace ProgramImage

namespace NumberToken

/-- Whether a byte is a decimal digit. -/
def isDigit (byte : UInt8) : Bool :=
  '0'.toUInt8 ≤ byte && byte ≤ '9'.toUInt8

/-- The value of a digit. -/
def digitValue (byte : UInt8) : Nat :=
  byte.toNat - 48

/-- Takes digits into a significand while it fits sixty-four bits. The result is the
    significand and the number of digits taken. -/
def absorb (significand taken : Nat) : List UInt8 → Nat × Nat
  | [] => (significand, taken)
  | digit :: rest =>
    let next := significand * 10 + digitValue digit
    if next ≤ max64 then absorb next (taken + 1) rest else (significand, taken)

/-- A power of ten as a floating-point number. -/
def power (n : Nat) : Double :=
  .ofNat (Double.tenPow n)

/-- Scales a number by a power of ten, in steps of at most 308. Three steps take every
    significand to zero or out of range. -/
def scaleBy (fuel : Nat) (x : Double) (exponent : Int) : Except Fault Double :=
  if exponent.natAbs ≤ 308 then
    if exponent ≥ 0 then
      let product := x.mul (power exponent.natAbs)
      if product.isFinite then .ok product else .error .malformed
    else .ok (x.div (power exponent.natAbs))
  else if x.magnitude = 0 then .ok x
  else if exponent ≥ 0 then .error .malformed
  else match fuel with
    | 0 => .ok x
    | fuel + 1 => scaleBy fuel (x.div (power 308)) (exponent + 308)

/-- A significand times a power of ten, with a sign. -/
def scaled (negative : Bool) (significand : Nat) (exponent : Int) : Except Fault Number :=
  (scaleBy 3 (.ofNat significand) exponent).map fun x =>
    .float (if negative then x.neg else x)

/-- A whole number, or the nearest floating-point number when it has no place among
    the whole numbers of sixty-four bits. -/
def whole (negative : Bool) (significand : Nat) : Number :=
  if !negative then .int significand
  else if significand = 0 || significand > max64 / 2 + 1 then .float (Double.ofNat significand).neg
  else .int (-(significand : Int))

/-- The number of a token by its parts: the digits before and after the point, and the
    exponent. -/
def value (negative : Bool) (digits : List UInt8) (fraction : Option (List UInt8))
    (exponent : Option Int) : Except Fault Number :=
  let (significand, taken) := absorb 0 0 digits
  let dropped := digits.length - taken
  if fraction.isNone && exponent.isNone && dropped = 0 then .ok (whole negative significand)
  else
    let (significand, places) := absorb significand 0 (fraction.getD [])
    scaled negative significand ((dropped : Int) - places + exponent.getD 0)

/-- The break of a number that lacks a digit. -/
def lacksDigit (rest : List UInt8) : Break :=
  ⟨if rest.isEmpty then .unfinished else .malformed, .malformed⟩

/-- Reads an exponent, if one stands here. -/
def exponent : List UInt8 → Except Break (Option Int × List UInt8)
  | [] => .ok (none, [])
  | letter :: rest =>
    if letter = 'e'.toUInt8 || letter = 'E'.toUInt8 then
      let (negative, rest) :=
        match rest with
        | sign :: rest' =>
          if sign = '-'.toUInt8 then (true, rest')
          else if sign = '+'.toUInt8 then (false, rest')
          else (false, rest)
        | [] => (false, rest)
      let digits := rest.takeWhile isDigit
      let rest := rest.dropWhile isDigit
      if digits.isEmpty then .error (lacksDigit rest)
      else
        let size : Int := digits.foldl (fun n digit => n * 10 + digitValue digit) 0
        .ok (some (if negative then -size else size), rest)
    else .ok (none, letter :: rest)

/-- Reads a fraction, if one stands here. -/
def fraction : List UInt8 → Except Break (Option (List UInt8) × List UInt8)
  | [] => .ok (none, [])
  | point :: rest =>
    if point = '.'.toUInt8 then
      let digits := rest.takeWhile isDigit
      let rest := rest.dropWhile isDigit
      if digits.isEmpty then .error (lacksDigit rest) else .ok (some digits, rest)
    else .ok (none, point :: rest)

/-- Reads a number without its sign. -/
def unsigned (negative : Bool) (bytes : List UInt8) :
    Except Break (Except Fault Number × List UInt8) := do
  let digits := bytes.takeWhile isDigit
  let rest := bytes.dropWhile isDigit
  if digits.isEmpty then throw (lacksDigit rest)
  if digits.head? = some '0'.toUInt8 && digits.length > 1 then throw (.always .malformed)
  let (fraction, rest) ← fraction rest
  let (exponent, rest) ← exponent rest
  return (value negative digits fraction exponent, rest)

/-- Reads a number. -/
def read : List UInt8 → Except Break (Except Fault Number × List UInt8)
  | [] => .error (lacksDigit [])
  | sign :: rest =>
    if sign = '-'.toUInt8 then unsigned true rest else unsigned false (sign :: rest)

end NumberToken

end ProgramImage
