import ProgramImage.Number.Digits

/-!
# Hexadecimal text

Numbers are written in hexadecimal with as many digits as they need or with a fixed
width, and bytes with two digits each. `bytesOfHex?` reads bytes back.
-/

namespace ProgramImage

namespace Text

/-- The hexadecimal digits of a number, in lower case and without leading zeros. -/
def hex (n : Nat) : List Char :=
  Nat.toDigits 16 n

/-- The hexadecimal digits of a number, with zeros in front up to a width. -/
def paddedHex (width n : Nat) : String :=
  let digits := hex n
  String.ofList (List.replicate (width - digits.length) '0' ++ digits)

/-- Bytes in hexadecimal, two digits each. -/
def hexBytes (bytes : List UInt8) : String :=
  String.join (bytes.map fun byte => paddedHex 2 byte.toNat)

/-- The bytes that pairs of hexadecimal digits stand for, if all of them are digits. -/
def bytesOfHex? : List Char → Option (List UInt8)
  | [] => some []
  | [_] => none
  | high :: low :: rest => do
    let h ← Digits.value? 16 high
    let l ← Digits.value? 16 low
    return UInt8.ofNat (16 * h + l) :: (← bytesOfHex? rest)

end Text

end ProgramImage
