import ProgramImage.Index
import ProgramImage.Text.Hex

/-!
# Object headers

Every heap object starts with one word of 64 bits. From the top it holds a
reference count of 40 bits, the mark, the young bit, two unused bits, and the type
identifier in 20 bits. An object is reachable when it is counted or marked. The
word zero stands for an object that was moved away; no type is numbered zero, so no
live header is zero.

The fields are read and written by arithmetic on the number that the word is: each
field is a digit in a mixed radix, so an operation on one leaves the others alone.
-/

namespace ProgramImage

/-- The header word of a heap object. -/
structure HeaderWord where
  raw : Nat
  raw_le : raw ≤ 0xFFFFFFFFFFFFFFFF := by decide
  deriving DecidableEq, Repr

namespace HeaderWord

/-- The lowest bit of the reference count. -/
def countShift : Nat := 24

/-- One reference, in place. -/
def countOne : Nat := 0x1000000

/-- The largest reference count. -/
def maxCount : Nat := 0xFFFFFFFFFF

/-- The bits of the reference count. -/
def countMask : Nat := maxCount * countOne

/-- The mark bit. -/
def markBit : Nat := 0x800000

/-- The bit of the young generation. -/
def youngBit : Nat := 0x400000

/-- The bits that nothing uses. -/
def unusedMask : Nat := 0x300000

/-- The bits of the type identifier. -/
def typeMask : Nat := TypeId.max

/-- The bits that keep an object reachable. -/
def reachableMask : Nat := countMask + markBit

/-- The word that stands for a moved object. -/
def sentinel : Nat := 0

def count (word : HeaderWord) : Nat :=
  word.raw / countOne

/-- Whether the mark is set. -/
def marked (word : HeaderWord) : Bool :=
  word.raw / markBit % 2 == 1

/-- Whether the object belongs to the young generation. -/
def young (word : HeaderWord) : Bool :=
  word.raw / youngBit % 2 == 1

/-- The type of the object. -/
def tid (word : HeaderWord) : TypeId :=
  ⟨word.raw % (typeMask + 1)⟩

/-- Whether a reference or the mark keeps the object. -/
def isReachable (word : HeaderWord) : Bool :=
  word.raw / markBit != 0

/-- Whether the word stands for a moved object. -/
def isForwarded (word : HeaderWord) : Bool :=
  word.raw == sentinel

/-- The word that stands for a moved object. -/
def forwarded : HeaderWord where
  raw := sentinel

/-- The word with a given number, of which the low 64 bits count. -/
def ofNat (raw : Nat) : HeaderWord where
  raw := raw % 0x10000000000000000
  raw_le := by omega

/-- A header from its fields. The count and the type are cut to their width. -/
def new (tid : TypeId) (count : Nat) (marked young : Bool) : HeaderWord where
  raw := count % (maxCount + 1) * countOne + marked.toNat * markBit + young.toNat * youngBit +
    tid.value % (typeMask + 1)
  raw_le := by
    have hm := marked.toNat_le
    have hy := young.toNat_le
    simp only [maxCount, countOne, markBit, youngBit, typeMask, TypeId.max]
    omega

/-- The header of a new object. -/
def ofYoung (tid : TypeId) : HeaderWord :=
  new tid 0 false true

/-- The header of an old object that a root keeps. -/
def ofRoot (tid : TypeId) : HeaderWord :=
  new tid 0 true false

/-- The header of an old object with one reference. -/
def ofReferenced (tid : TypeId) : HeaderWord :=
  new tid 1 false false

/-- Replaces the reference count, if the new one fits. -/
def setCount? (word : HeaderWord) (count : Nat) : Option HeaderWord :=
  if h : count ≤ maxCount then
    some ⟨count * countOne + word.raw % countOne, by
      simp only [maxCount, countOne] at h ⊢
      omega⟩
  else none

/-- Adds a reference, unless the count is at its limit. -/
def increment? (word : HeaderWord) : Option HeaderWord :=
  word.setCount? (word.count + 1)

/-- Drops a reference, unless there is none. -/
def decrement? (word : HeaderWord) : Option HeaderWord :=
  if word.count = 0 then none else word.setCount? (word.count - 1)

/-- Sets or clears the mark. -/
def setMarked (word : HeaderWord) (marked : Bool) : HeaderWord where
  raw := word.raw / countOne * countOne + marked.toNat * markBit + word.raw % markBit
  raw_le := by
    have hw := word.raw_le
    have hm := marked.toNat_le
    simp only [countOne, markBit]
    omega

/-- Moves the object to the old generation. -/
def promote (word : HeaderWord) : HeaderWord where
  raw := word.raw / markBit * markBit + word.raw % youngBit
  raw_le := by
    have hw := word.raw_le
    simp only [markBit, youngBit]
    omega

/-- The word in hexadecimal, all sixteen digits. -/
def hexText (word : HeaderWord) : String :=
  "0x" ++ Text.paddedHex 16 word.raw

def text (word : HeaderWord) : String :=
  if word.isForwarded then "forwarded"
  else "rc=" ++ toString word.count ++ " mark=" ++ toString word.marked.toNat ++
    " young=" ++ toString word.young.toNat ++ " tid=" ++ toString word.tid.value

def describe (word : HeaderWord) : String :=
  "HeaderWord \x7b raw: " ++ word.hexText ++ ", rc: " ++ toString word.count ++
    ", marked: " ++ toString word.marked ++ ", young: " ++ toString word.young ++
    ", tid: " ++ toString word.tid.value ++ " \x7d"

end HeaderWord

end ProgramImage
