import ProgramImage.Json.Node
import ProgramImage.Text.Utf8

/-!
# String tokens

The bytes between the quotation marks of a JSON string are read one at a time. A
reader who passes over the string asks only that its escapes are spelled right and
that no control character stands in it. A reader who wants the text also asks that
surrogates come in pairs and that the bytes are UTF-8; `StringToken.fault?` keeps the
first surrogate that stands alone.
-/

namespace ProgramImage

/-- A string token: its bytes with the escapes resolved, the first fault that only a
    reader of the text sees, and what follows the token, or where it breaks off. -/
structure StringToken where
  bytes : List UInt8
  fault? : Option Fault
  rest : Except Fault (List UInt8)

namespace StringToken

/-- What the next byte of a string belongs to. -/
inductive State where
  /-- The text itself. -/
  | text
  /-- An escape, just begun. -/
  | escape
  /-- The number of an escape: the digits still to come, and the value so far. -/
  | number (missing value : Nat)

/-- The value of a hexadecimal digit. -/
def hexValue? (byte : UInt8) : Option Nat :=
  Digits.value? 16 (Char.ofNat byte.toNat)

/-- What an escape of one letter stands for. -/
def letter? (byte : UInt8) : Option Char :=
  [('"', '"'), ('\\', '\\'), ('/', '/'), ('b', '\x08'), ('f', '\x0c'), ('n', '\n'), ('r', '\r'),
    ('t', '\t')].lookup (Char.ofNat byte.toNat)

/-- Whether a number is the first half of a pair of surrogates. -/
def isLead (n : Nat) : Bool :=
  0xD800 ≤ n && n ≤ 0xDBFF

/-- Whether a number is the second half of a pair of surrogates. -/
def isTrail (n : Nat) : Bool :=
  0xDC00 ≤ n && n ≤ 0xDFFF

/-- The code point of a pair of surrogates. -/
def pair (lead trail : Nat) : Nat :=
  (lead - 0xD800) * 1024 + (trail - 0xDC00) + 0x10000

/-- Reads a string from a state. `lead?` is a first surrogate that the text just
    before ended with, `bytes` what is read so far, last byte first. -/
def scan (state : State) (lead? : Option Nat) (bytes : List UInt8) (fault? : Option Fault) :
    List UInt8 → StringToken
  | [] => ⟨bytes.reverse, fault?, .error .unfinished⟩
  | byte :: rest =>
    let alone := fault? <|> lead?.map fun _ => Fault.malformed
    match state with
    | .text =>
      if byte = '"'.toUInt8 then ⟨bytes.reverse, alone, .ok rest⟩
      else if byte = '\\'.toUInt8 then scan .escape lead? bytes fault? rest
      else if byte < 32 then ⟨bytes.reverse, alone, .error .malformed⟩
      else scan .text none (byte :: bytes) alone rest
    | .escape =>
      if byte = 'u'.toUInt8 then
        if rest.length < 4 then ⟨bytes.reverse, fault?, .error .unfinished⟩
        else scan (.number 4 0) lead? bytes fault? rest
      else match letter? byte with
        | some c => scan .text none ((Utf8.encode [c]).reverse ++ bytes) alone rest
        | none => ⟨bytes.reverse, alone, .error .malformed⟩
    | .number missing value =>
      match hexValue? byte with
      | none => ⟨bytes.reverse, fault?, .error .malformed⟩
      | some digit =>
        let n := value * 16 + digit
        if missing > 1 then scan (.number (missing - 1) n) lead? bytes fault? rest
        else match lead? with
          | some lead =>
            if isTrail n then
              let c := Char.ofNat (pair lead n)
              scan .text none ((Utf8.encode [c]).reverse ++ bytes) fault? rest
            else scan .text none bytes alone rest
          | none =>
            if isLead n then scan .text (some n) bytes fault? rest
            else if isTrail n then scan .text none bytes (fault? <|> some .malformed) rest
            else scan .text none ((Utf8.encode [Char.ofNat n]).reverse ++ bytes) fault? rest

/-- Reads a string after its opening mark. -/
def read (bytes : List UInt8) : StringToken :=
  scan .text none [] none bytes

def text (token : StringToken) : Except Fault String :=
  match token.fault? with
  | some fault => .error fault
  | none =>
    match Utf8.decode? token.bytes with
    | some text => .ok (String.ofList text)
    | none => .error .malformed

/-- The break of a token that ends in a fault. -/
def break_ (token : StringToken) (fault : Fault) : Break :=
  ⟨token.fault?.getD fault, fault⟩

end StringToken

end ProgramImage
