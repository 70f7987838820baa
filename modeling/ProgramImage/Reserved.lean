import ProgramImage.Descriptor

/-!
# Reserved types

Twenty-six types exist in every program, with fixed identifiers, sizes and masks:
the scalars, the numbers, strings with their backing representations, byte
buffers, and a few standard values. `reservedDescriptors` lists them in the order
of their identifiers.
-/

namespace ProgramImage

namespace Reserved

/-- Bytes of data in a leaf of a byte buffer. -/
def byteBufferLeafSize : Nat := 256

/-- The bytes of content in a universal union, and of the union with its tag. -/
def unionUniversalContent : Nat := 32

/-- The bytes of a universal union, its tag word included. -/
def unionUniversalSize : Nat := 40

/-- The fixed-capacity representations of strings, smallest first. -/
def stringBuffers : List (TypeId × Nat) :=
  [(⟨20⟩, 16), (⟨21⟩, 32), (⟨22⟩, 64), (⟨23⟩, 96), (⟨24⟩, 128)]

/-- A scalar of one word that assignment copies whole. -/
def word : SizeInfo × TypeKind :=
  (.register 8 8, .register)

/-- The sizes of a value that looks the same in a slot and behind a box. -/
def inlineSize (bytes : Nat) (mask : Mask) : SizeInfo :=
  ⟨bytes, bytes, bytes, none, mask⟩

/-- A struct of the runtime whose fields have no identifiers. -/
def plainStruct (bytes : Nat) (mask : Mask) : SizeInfo × TypeKind :=
  (inlineSize bytes mask, .struct .empty)

/-- An entity of the runtime whose fields have no identifiers. -/
def plainEntity (bytes : Nat) (mask : Option Mask) : SizeInfo × TypeKind :=
  (.reference bytes mask, .ref .empty)

/-- A string buffer of a given capacity. -/
def stringBuffer (capacity : Nat) : SizeInfo × TypeKind :=
  (.reference capacity none, .stringRepr (.buffer capacity))

/-- The reserved types, in the order of their identifiers. -/
def shapes : List (String × SizeInfo × TypeKind) :=
  [("None", word),
   ("Nothing", word),
   ("Bool", .register 8 1, .register),
   ("Nat", word),
   ("Int", word),
   ("BigNat", inlineSize 16 ⟨[.bigNum]⟩, .bigNum),
   ("BigInt", inlineSize 16 ⟨[.bigNum]⟩, .bigNum),
   ("Float", word),
   ("Decimal", word),
   ("Rational", plainStruct 24 ⟨[.bigNum, .skip]⟩),
   ("String", ⟨0, 16, 16, none, ⟨[.string]⟩⟩, .string),
   ("@ByteBufferLeaf", plainEntity (byteBufferLeafSize + wordSize) none),
   ("@ByteBufferNode", plainEntity 24 (some ⟨[.pointer, .pointer]⟩)),
   ("ByteBuffer", plainEntity 24 (some ⟨[.pointer]⟩)),
   ("DateTime", plainStruct 16 ⟨[.skip, .skip]⟩),
   ("TickTime", word),
   ("LogicalTime", word),
   ("UUID", plainStruct 16 ⟨[.skip, .skip]⟩),
   ("ContentHash", plainEntity 64 none),
   ("Regex", word),
   ("@StringK16", stringBuffer 16),
   ("@StringK32", stringBuffer 32),
   ("@StringK64", stringBuffer 64),
   ("@StringK96", stringBuffer 96),
   ("@StringK128", stringBuffer 128),
   ("@StringTree", .reference 24 (some ⟨[.pointer, .pointer]⟩), .stringRepr .tree)]

end Reserved

/-- The descriptors of the reserved types, each at the place of its identifier. -/
def reservedDescriptors : List TypeDescriptor :=
  Reserved.shapes.zipIdx.map fun ((name, size, kind), tid) => ⟨⟨tid⟩, name, size, kind⟩

/-- The names of the reserved types, in the order of their identifiers. -/
def reservedNames : List String :=
  Reserved.shapes.map (·.1)

/-- The identifier of a reserved type. -/
def reservedId? (name : String) : Option TypeId :=
  (reservedNames.findIdx? (· == name)).map Index.mk

end ProgramImage
