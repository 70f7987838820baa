/-!
# Little-endian numbers

Numbers are stored least significant byte first. `encode` gives the low bytes of a
natural number and `decode` the number that bytes stand for; `encodeInt` and
`decodeInt` do the same in two's complement.
-/

namespace ProgramImage

namespace LittleEndian

/-- The low `width` bytes of a number. -/
def encode : Nat → Nat → List UInt8
  | 0, _ => []
  | width + 1, n => UInt8.ofNat n :: encode width (n / 256)

/-- The number that bytes stand for. -/
def decode : List UInt8 → Nat
  | [] => 0
  | byte :: rest => byte.toNat + 256 * decode rest

/-- The low `width` bytes of an integer in two's complement. -/
def encodeInt (width : Nat) (i : Int) : List UInt8 :=
  encode width (i % Int.ofNat (Nat.pow 256 width)).toNat

/-- The integer that bytes stand for in two's complement. -/
def decodeInt (bytes : List UInt8) : Int :=
  let n := decode bytes
  let count := Nat.pow 256 bytes.length
  if 2 * n < count then Int.ofNat n else Int.ofNat n - Int.ofNat count

end LittleEndian

end ProgramImage
