import ProgramImage.Number.Double

/-!
# Floating-point numbers and text

A floating-point number is read from decimal text and rounded correctly, and it is
written with the fewest digits that read back as the same number.

## Main definitions

* `Double.ofText?` reads a text that is a number from end to end.
* `Double.shortest` finds the fewest digits: it goes through the decimal grids from
  the coarsest, and stops at the first that has a point in the interval of the
  numbers that round to the given one.
* `Double.text` writes those digits in positional notation.
-/

namespace ProgramImage

namespace Double

/-- `10 ^ e` when `e` is positive, else one. -/
def tenPow (e : Int) : Nat :=
  Nat.pow 10 e.toNat

/-! ### Reading -/

/-- The number `digits * 10 ^ exponent`, where `digits` has at most `digitCount`
    digits. Far beyond the range of numbers it is known without computing it. -/
def ofDecimal (negative : Bool) (digits : Nat) (digitCount : Nat) (exponent : Int) : Double :=
  if digits = 0 || exponent + digitCount < -400 then ofMagnitude negative 0
  else if exponent > 400 then infinity negative
  else ofRatio negative (digits * tenPow exponent) (tenPow (-exponent))

/-- The value of decimal digits. -/
def digitsValue (digits : List Char) : Nat :=
  digits.foldl (fun value c => value * 10 + Digits.decimalValue c) 0

/-- Reads an exponent from end to end: nothing, or a letter, a sign and digits. -/
def exponent? : List Char → Option Int
  | [] => some 0
  | letter :: rest =>
    if letter = 'e' || letter = 'E' then
      let (negative, digits) :=
        match rest with
        | '-' :: digits => (true, digits)
        | '+' :: digits => (false, digits)
        | digits => (false, digits)
      if digits.isEmpty || !digits.all Digits.isDecimal then none
      else
        let value : Int := digitsValue digits
        some (if negative then -value else value)
    else none

/-- Reads an unsigned number in decimal notation from end to end. -/
def unsignedDecimal? (negative : Bool) (text : List Char) : Option Double :=
  let whole := text.takeWhile Digits.isDecimal
  let (fraction, rest) :=
    match text.dropWhile Digits.isDecimal with
    | '.' :: rest => (rest.takeWhile Digits.isDecimal, rest.dropWhile Digits.isDecimal)
    | rest => ([], rest)
  let digits := whole ++ fraction
  if digits.isEmpty then none
  else (exponent? rest).map fun exponent =>
    ofDecimal negative (digitsValue digits) digits.length (exponent - fraction.length)

/-- Reads the names of the values that have no digits, in either case. -/
def named? (negative : Bool) (text : List Char) : Option Double :=
  let name := String.ofList (text.map Char.toLower)
  if name = "inf" || name = "infinity" then some (infinity negative)
  else if name = "nan" then some (nan negative)
  else none

/-- Reads an unsigned number from end to end. -/
def unsigned? (negative : Bool) (text : List Char) : Option Double :=
  unsignedDecimal? negative text <|> named? negative text

/-- Reads a number with an optional sign from end to end. -/
def ofText? : List Char → Option Double
  | '-' :: text => unsigned? true text
  | '+' :: text => unsigned? false text
  | text => unsigned? false text

/-! ### Writing -/

/-- The point of the grid of multiples of `10 ^ p` that is nearest to
    `4 * m * 2 ^ (q - 2)` among those between `low * 2 ^ (q - 2)` and
    `high * 2 ^ (q - 2)`, as a multiple; of two equally near the larger. -/
def gridPoint? (m low high : Nat) (closed : Bool) (q p : Int) : Option Nat :=
  let unit := twoPow (q - 2) * tenPow (-p)
  let step := twoPow (2 - q) * tenPow p
  let value := 4 * m * unit
  let inside (k : Nat) : Bool :=
    if closed then low * unit ≤ k * step && k * step ≤ high * unit
    else low * unit < k * step && k * step < high * unit
  let below := value / step
  let above := below + 1
  match inside below, inside above with
  | true, true => some (if 2 * (value % step) < step then below else above)
  | true, false => some below
  | false, true => some above
  | false, false => none

/-- Searches the grids of multiples of `10 ^ p` for the next `fuel` powers, from `p`
    down. -/
def searchGrids (m low high : Nat) (closed : Bool) (q : Int) : Nat → Int → Nat × Int
  | 0, p => (m, p)
  | fuel + 1, p =>
    match gridPoint? m low high closed q p with
    | some digits => (digits, p)
    | none => searchGrids m low high closed q fuel (p - 1)

/-- The fewest digits that read back as a positive finite number, and the power of
    ten of the last digit. -/
def shortest (x : Double) : Nat × Int :=
  let (m, q) := x.parts
  let low := if m = exponentOne && q > -1074 then 4 * m - 1 else 4 * m - 2
  searchGrids m low (4 * m + 2) (m % 2 == 0) q 700 309

/-- The digits of a number with a point before the last `-p` of them, or with `p`
    zeros behind them. -/
def positional (digits : List Char) (p : Int) : List Char :=
  if p ≥ 0 then digits ++ List.replicate p.toNat '0'
  else
    let places := (-p).toNat
    if digits.length > places then
      digits.take (digits.length - places) ++ '.' :: digits.drop (digits.length - places)
    else '0' :: '.' :: List.replicate (places - digits.length) '0' ++ digits

/-- The text of a magnitude in positional notation. -/
def magnitudeText (x : Double) : List Char :=
  if x.magnitude = 0 then ['0']
  else
    let (digits, p) := x.shortest
    positional (Nat.toDigits 10 digits) p

/-- The text of a number: a sign, and the fewest digits that read back. -/
def text (x : Double) : String :=
  if x.isNaN then "NaN"
  else
    let sign := if x.negative then ['-'] else []
    let body := if x.isFinite then x.magnitudeText else ['i', 'n', 'f']
    String.ofList (sign ++ body)

end Double

end ProgramImage
