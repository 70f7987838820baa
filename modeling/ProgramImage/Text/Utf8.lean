/-!
# UTF-8

`encode` gives the bytes of a text. `decode?` reads bytes back, and refuses those
that no text has: stray or missing continuation bytes, forms that are longer than
needed, surrogates, and numbers above the last code point. `dropBytes?` and `charAt?`
look at a text from a byte position on, which has to lie between two characters.
-/

namespace ProgramImage

namespace Utf8

/-- The bytes of a text. -/
def encode (text : List Char) : List UInt8 :=
  text.flatMap String.utf8EncodeChar

/-- The text behind its first `n` bytes, if a character ends there. -/
def dropBytes? : Nat → List Char → Option (List Char)
  | 0, text => some text
  | _ + 1, [] => none
  | n + 1, c :: rest =>
    if c.utf8Size ≤ n + 1 then dropBytes? (n + 1 - c.utf8Size) rest else none

/-- The character that starts at a byte position, if one does. -/
def charAt? (text : List Char) (position : Nat) : Option Char :=
  (dropBytes? position text).bind List.head?

/-- The value of the low six bits of a continuation byte, if it is one between the
    given bounds. -/
def tail? (low high : Nat) (byte : UInt8) : Option Nat :=
  if low ≤ byte.toNat && byte.toNat ≤ high then some (byte.toNat % 64) else none

/-- Any continuation byte. -/
def anyTail? (byte : UInt8) : Option Nat :=
  tail? 0x80 0xBF byte

/-- The bounds of the byte after a leading byte of three. -/
def secondOfThree (lead : Nat) : Nat × Nat :=
  if lead = 0xE0 then (0xA0, 0xBF) else if lead = 0xED then (0x80, 0x9F) else (0x80, 0xBF)

/-- The bounds of the byte after a leading byte of four. -/
def secondOfFour (lead : Nat) : Nat × Nat :=
  if lead = 0xF0 then (0x90, 0xBF) else if lead = 0xF4 then (0x80, 0x8F) else (0x80, 0xBF)

/-- Reads the text that bytes encode, if they encode one. -/
def decode? : List UInt8 → Option (List Char)
  | [] => some []
  | a :: rest =>
    let lead := a.toNat
    if lead < 0x80 then (decode? rest).map (Char.ofNat lead :: ·)
    else match rest with
      | [] => none
      | b :: rest =>
        if 0xC2 ≤ lead && lead ≤ 0xDF then do
          let low ← anyTail? b
          let text ← decode? rest
          pure (Char.ofNat (lead % 32 * 64 + low) :: text)
        else match rest with
          | [] => none
          | c :: rest =>
            if 0xE0 ≤ lead && lead ≤ 0xEF then do
              let (from_, upTo) := secondOfThree lead
              let middle ← tail? from_ upTo b
              let low ← anyTail? c
              let text ← decode? rest
              pure (Char.ofNat ((lead % 16 * 64 + middle) * 64 + low) :: text)
            else match rest with
              | [] => none
              | d :: rest =>
                if 0xF0 ≤ lead && lead ≤ 0xF4 then do
                  let (from_, upTo) := secondOfFour lead
                  let high ← tail? from_ upTo b
                  let middle ← anyTail? c
                  let low ← anyTail? d
                  let text ← decode? rest
                  pure (Char.ofNat (((lead % 8 * 64 + high) * 64 + middle) * 64 + low) :: text)
                else none

end Utf8

end ProgramImage
