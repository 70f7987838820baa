/-!
# Whole numbers from text

A whole number is an optional sign and one or more digits. Its digits are read from
the left; the first one that is no digit, or that takes the value over its limit,
decides what is wrong with the text. Only ASCII characters are digits.
-/

namespace ProgramImage

/-- The largest natural number of 32 bits. -/
def max32 : Nat := 0xFFFFFFFF

/-- The largest natural number of 64 bits. Half of it is the largest integer. -/
def max64 : Nat := 0xFFFFFFFFFFFFFFFF

/-- The largest natural number of 128 bits. Half of it is the largest integer. -/
def max128 : Nat := 0xFFFFFFFFFFFFFFFFFFFFFFFFFFFFFFFF

/-- Why a text is not a whole number in range. -/
inductive DigitError where
  | empty
  | invalidDigit
  | tooLarge
  | tooSmall
  deriving DecidableEq, Repr

def DigitError.message : DigitError → String
  | empty => "cannot parse integer from empty string"
  | invalidDigit => "invalid digit found in string"
  | tooLarge => "number too large to fit in target type"
  | tooSmall => "number too small to fit in target type"

namespace Digits

/-- Whether a character is a decimal digit. -/
def isDecimal (c : Char) : Bool :=
  '0' ≤ c && c ≤ '9'

/-- The value of a decimal digit. -/
def decimalValue (c : Char) : Nat :=
  c.toNat - 48

/-- The value of a digit of a radix up to thirty-six, in either case. -/
def value? (radix : Nat) (c : Char) : Option Nat :=
  let value :=
    if isDecimal c then c.toNat - 48
    else if 'a' ≤ c && c ≤ 'z' then c.toNat - 87
    else if 'A' ≤ c && c ≤ 'Z' then c.toNat - 55
    else radix
  if value < radix then some value else none

/-- Reads digits after a value. A value above `limit` is `overflow`. -/
def extend (radix limit : Nat) (overflow : DigitError) (value : Nat) :
    List Char → Except DigitError Nat
  | [] => .ok value
  | c :: rest =>
    match value? radix c with
    | none => .error .invalidDigit
    | some digit =>
      let next := value * radix + digit
      if next > limit then .error overflow else extend radix limit overflow next rest

/-- Reads one or more digits. -/
def unsigned (radix limit : Nat) (overflow : DigitError) : List Char → Except DigitError Nat
  | [] => .error .invalidDigit
  | digits => extend radix limit overflow 0 digits

/-- Reads a natural number with an optional plus sign. -/
def nat (radix limit : Nat) : List Char → Except DigitError Nat
  | [] => .error .empty
  | '+' :: digits => unsigned radix limit .tooLarge digits
  | digits => unsigned radix limit .tooLarge digits

/-- Reads an integer with an optional sign, from `-(limit + 1)` to `limit`. -/
def int (radix limit : Nat) : List Char → Except DigitError Int
  | [] => .error .empty
  | '+' :: digits => (unsigned radix limit .tooLarge digits).map Int.ofNat
  | '-' :: digits => (unsigned radix (limit + 1) .tooSmall digits).map fun n => -(n : Int)
  | digits => (unsigned radix limit .tooLarge digits).map Int.ofNat

end Digits

end ProgramImage
