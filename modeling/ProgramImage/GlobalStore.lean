import ProgramImage.StringSlot

/-!
# The global buffer

One buffer of bytes holds every literal and constant of a program, at offsets that
the assembly chooses. It starts as zeros and keeps its size. An access that runs
past the end is refused and changes nothing.

## Main definitions

* `GlobalStore.write` and `GlobalStore.read` access a range of bytes.
* `GlobalStore.toList` is the content of the buffer.
* `GlobalStore.readNat`, `GlobalStore.readInt` and `GlobalStore.readString` read the
  values that literals and constants leave.
-/

namespace ProgramImage

/-- Why an access is refused. -/
inductive GlobalError where
  /-- The range runs past the end of the buffer. -/
  | outOfBounds (offset length size : Nat)
  deriving DecidableEq, Repr

def GlobalError.message : GlobalError → String
  | outOfBounds offset length size =>
    "global access [" ++ toString offset ++ ", " ++ toString offset ++ "+" ++ toString length ++
      ") is outside the " ++ toString size ++ "-byte buffer"

/-- The global buffer and the mask of its slots. -/
structure GlobalStore where
  bytes : ByteArray
  mask : Mask

namespace GlobalStore

/-- Appends zeros to a buffer. -/
def appendZeros (bytes : ByteArray) : Nat → ByteArray
  | 0 => bytes
  | n + 1 => appendZeros (bytes.push 0) n

/-- A buffer of zeros. -/
def zeros (size : Nat) (mask : Mask) : GlobalStore :=
  ⟨appendZeros (ByteArray.emptyWithCapacity size) size, mask⟩

def size (store : GlobalStore) : Nat :=
  store.bytes.size

def toList (store : GlobalStore) : List UInt8 :=
  store.bytes.data.toList

/-- Refuses a range that runs past the end. -/
def checkRange (store : GlobalStore) (offset length : Nat) : Except GlobalError Unit :=
  if offset + length ≤ store.size then .ok ()
  else .error (.outOfBounds offset length store.size)

/-- Replaces the bytes of an array from an offset on. -/
def setBytes (bytes : ByteArray) (offset : Nat) : List UInt8 → ByteArray
  | [] => bytes
  | byte :: rest => setBytes (bytes.set! offset byte) (offset + 1) rest

/-- Replaces bytes from an offset on, as far as the buffer reaches. -/
def overwrite (store : GlobalStore) (offset : Nat) (content : List UInt8) : GlobalStore :=
  { store with bytes := setBytes store.bytes offset content }

/-- Writes bytes at an offset. -/
def write (store : GlobalStore) (offset : Nat) (content : List UInt8) :
    Except GlobalError GlobalStore :=
  match store.checkRange offset content.length with
  | .ok () => .ok (store.overwrite offset content)
  | .error error => .error error

/-- Reads bytes from an offset. -/
def read (store : GlobalStore) (offset length : Nat) : Except GlobalError (List UInt8) :=
  match store.checkRange offset length with
  | .ok () => .ok ((List.range length).map fun i => store.bytes.get! (offset + i))
  | .error error => .error error

/-- Reads a byte that is not zero as true. -/
def readBool (store : GlobalStore) (offset : Nat) : Except GlobalError Bool :=
  (store.read offset 1).map fun bytes => bytes != [0]

/-- Reads a natural number of a given width in bytes. -/
def readNat (store : GlobalStore) (width offset : Nat) : Except GlobalError Nat :=
  (store.read offset width).map LittleEndian.decode

/-- Reads an integer of a given width in bytes. -/
def readInt (store : GlobalStore) (width offset : Nat) : Except GlobalError Int :=
  (store.read offset width).map LittleEndian.decodeInt

/-- Reads a string slot, which may be none of the three forms. -/
def readString (store : GlobalStore) (offset : Nat) : Except GlobalError (Option StringSlot) :=
  (store.read offset stringSlotSize).map StringSlot.decode?

end GlobalStore

end ProgramImage
