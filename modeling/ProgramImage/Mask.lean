import ProgramImage.Text.Quoted
import ProgramImage.Text.Utf8

/-!
# Reference masks

A reference mask describes the words of an inline or heap layout that a collector
visits. It is a text over five symbols: `1` skips a word, `2` is a pointer, `3` a
string slot, `4` a big number slot and `5` the tag word of a union. String and big
number slots are two words wide, all others one. A mask is read byte by byte, and a
zero byte ends it early.

## Main definitions

* `Mask.parse` and `Mask.text` read and write a mask; `Mask.encode` adds the zero
  byte that ends a stored mask.
* `Mask.covered` is the number of bytes a mask describes.
* `Mask.walk` lists the traced slots with their byte offsets.
-/

namespace ProgramImage

/-- Bytes in a machine word. -/
def wordSize : Nat := 8

/-- The number of whole words that hold `bytes` bytes. -/
def wordsFor (bytes : Nat) : Nat :=
  (bytes + (wordSize - 1)) / wordSize

/-- The number of bytes in the whole words that hold `bytes` bytes, as a product of 64 bits. It is
    0 for the last seven sizes of 64 bits, whose words take 2^64 bytes. -/
def roundUpToWord (bytes : Nat) : Nat :=
  wordsFor bytes * wordSize % 0x10000000000000000

/-- One symbol of the mask alphabet. -/
inductive MaskSymbol where
  /-- A word that is not traced. -/
  | skip
  /-- A pointer word. -/
  | pointer
  /-- A string slot, inline bytes or a heap reference. -/
  | string
  /-- A big number slot. -/
  | bigNum
  /-- The tag word of a union. -/
  | union
  deriving DecidableEq, Repr, Inhabited

namespace MaskSymbol

/-- Every symbol, in the order of the characters that stand for them. -/
def all : List MaskSymbol :=
  [skip, pointer, string, bigNum, union]

def char : MaskSymbol → Char
  | skip => '1'
  | pointer => '2'
  | string => '3'
  | bigNum => '4'
  | union => '5'

/-- The byte that stands for a symbol in a stored mask. -/
def byte (symbol : MaskSymbol) : UInt8 :=
  symbol.char.toUInt8

/-- The symbol that a stored byte stands for. -/
def ofByte? (byte : UInt8) : Option MaskSymbol :=
  all.find? (·.byte == byte)

/-- The bytes of storage that a symbol describes. -/
def width : MaskSymbol → Nat
  | skip | pointer | union => wordSize
  | string | bigNum => 2 * wordSize

/-- Whether a collector looks at the slot. -/
def isTraced (symbol : MaskSymbol) : Bool :=
  symbol != skip

def name : MaskSymbol → String
  | skip => "Skip"
  | pointer => "Pointer"
  | string => "String"
  | bigNum => "BigNum"
  | union => "Union"

end MaskSymbol

/-- Why a text is not a mask. -/
inductive MaskError where
  /-- A character outside the alphabet, at a byte position. -/
  | invalidSymbol (symbol : Char) (position : Nat)
  deriving DecidableEq, Repr

def MaskError.message : MaskError → String
  | invalidSymbol symbol position =>
    "invalid mask symbol " ++ Text.quoteChar symbol ++ " at position " ++ toString position

/-- A traced slot: its byte offset in the described region, and what it holds. -/
structure MaskSlot where
  offset : Nat
  kind : MaskSymbol
  deriving DecidableEq, Repr

/-- A reference mask. -/
structure Mask where
  symbols : List MaskSymbol
  deriving DecidableEq, Repr, Inhabited

namespace Mask

def empty : Mask := ⟨[]⟩

/-- The mask of a universal union: its tag word and four words of content. -/
def unionUniversal : Mask :=
  ⟨[.union, .skip, .skip, .skip, .skip]⟩

/-- What is wrong with a text at a byte position where no symbol stands. -/
def strayAt (text : List Char) (position : Nat) : MaskError :=
  .invalidSymbol ((Utf8.charAt? text position).getD '\uFFFD') position

/-- Reads symbols up to the end of some bytes or the first zero byte. The bytes are
    those of `text` from `position` on. -/
def parseFrom (text : List Char) (position : Nat) : List UInt8 → Except MaskError (List MaskSymbol)
  | [] => .ok []
  | byte :: rest =>
    if byte = 0 then .ok []
    else match MaskSymbol.ofByte? byte with
      | some symbol => (parseFrom text (position + 1) rest).map (symbol :: ·)
      | none => .error (strayAt text position)

/-- Reads a mask from its text. -/
def parse (text : String) : Except MaskError Mask :=
  (parseFrom text.toList 0 (Utf8.encode text.toList)).map Mask.mk

def text (mask : Mask) : String :=
  String.ofList (mask.symbols.map MaskSymbol.char)

/-- The stored form of a mask, ended by a zero byte. -/
def encode (mask : Mask) : List UInt8 :=
  mask.symbols.map MaskSymbol.byte ++ [0]

/-- The bytes that symbols describe. -/
def widthOf : List MaskSymbol → Nat
  | [] => 0
  | symbol :: rest => symbol.width + widthOf rest

def covered (mask : Mask) : Nat :=
  widthOf mask.symbols

/-- Whether any slot is traced. -/
def hasPointers (mask : Mask) : Bool :=
  mask.symbols.any MaskSymbol.isTraced

/-- The traced slots of `symbols`, the first of which starts at `offset`. -/
def walkFrom (offset : Nat) : List MaskSymbol → List MaskSlot
  | [] => []
  | symbol :: rest =>
    let later := walkFrom (offset + symbol.width) rest
    if symbol.isTraced then ⟨offset, symbol⟩ :: later else later

/-- The traced slots of a mask, in order. -/
def walk (mask : Mask) : List MaskSlot :=
  walkFrom 0 mask.symbols

end Mask

end ProgramImage
