import ProgramImage.Heap

/-!
# String slots

A string takes a slot of sixteen bytes in one of three forms. The empty string is
all zeros. A string of up to fifteen bytes is held in the slot, followed by zeros,
with its length in the last byte. A longer string is held by a heap object; the
slot holds the reference word and the length, whose top byte is zero.
-/

namespace ProgramImage

/-- The bytes in a string slot. -/
def stringSlotSize : Nat := 16

/-- The longest string held in its slot. -/
def maxInlineString : Nat := stringSlotSize - 1

/-- The longest string held by one heap buffer. -/
def maxBufferString : Nat := 128

/-- What a string slot holds. -/
inductive StringSlot where
  /-- The empty string. -/
  | empty
  /-- A string in the slot itself. -/
  | inline (content : List UInt8)
  /-- A string in a heap object, and its length in bytes. -/
  | heap (obj : ObjectRef) (length : Nat)
  deriving DecidableEq, Repr

namespace StringSlot

/-- The slots that stand for a string: the content of an inline slot fits it and is
    not empty, and the length of a heap string leaves the top byte zero. -/
def WellFormed : StringSlot → Prop
  | empty => True
  | inline content => 1 ≤ content.length ∧ content.length ≤ maxInlineString
  | heap obj length => obj.raw ≤ max64 ∧ length < 0x100000000000000

/-- The inline slot of a string, if the string is neither empty nor too long. -/
def ofShort? (content : List UInt8) : Option StringSlot :=
  if content.isEmpty || content.length > maxInlineString then none else some (inline content)

def length : StringSlot → Nat
  | empty => 0
  | inline content => content.length
  | heap _ length => length

/-- The first fifteen bytes of an inline slot. -/
def padded (content : List UInt8) : List UInt8 :=
  content ++ List.replicate (maxInlineString - content.length) 0

/-- The bytes of a slot. -/
def encode : StringSlot → List UInt8
  | empty => List.replicate stringSlotSize 0
  | inline content => padded content ++ [UInt8.ofNat content.length]
  | heap obj length => LittleEndian.encode 8 obj.raw ++ LittleEndian.encode 8 length

/-- Reads the bytes of a slot, if they have one of the three forms. -/
def decode? (slot : List UInt8) : Option StringSlot :=
  let tag := slot.getD maxInlineString 0
  if slot.all (· == 0) then some empty
  else if tag ≠ 0 then
    if tag.toNat > maxInlineString then none else ofShort? (slot.take tag.toNat)
  else
    (ObjectRef.ofRaw? (LittleEndian.decode (slot.take 8))).map fun obj =>
      heap obj (LittleEndian.decode (slot.drop 8))

end StringSlot

/-- The smallest heap buffer for a string of a given length: its type and capacity. -/
def stringBufferFor? (length : Nat) : Option (TypeId × Nat) :=
  Reserved.stringBuffers.find? fun (_, capacity) => length ≤ capacity

end ProgramImage
