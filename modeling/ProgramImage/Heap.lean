import ProgramImage.Header
import ProgramImage.Number.LittleEndian
import ProgramImage.SlotTable

/-!
# The heap and its roots

The heap of a program is a list of objects that only grows. An object is a header
and a payload of the heap size of its type; it is referred to by a number that
starts at one, so that zero can be the null reference. The one region of roots is
the global buffer, registered once with its mask.

## Main definitions

* `Heap.allocate` adds an object, unless its type, its payload or the limit
  forbids it.
* `Heap.registerRoots` registers the global buffer.
* `Heap.globalRoots` lists the objects that a global buffer refers to, by a walk
  over the registered mask.
-/

namespace ProgramImage

/-- A reference to a heap object, by its place in the heap. -/
structure ObjectRef where
  place : Nat
  deriving DecidableEq, Repr

namespace ObjectRef

/-- The word that a pointer slot holds. -/
def raw (obj : ObjectRef) : Nat :=
  obj.place + 1

/-- The object that a stored word refers to; zero refers to none. -/
def ofRaw? : Nat → Option ObjectRef
  | 0 => none
  | place + 1 => some ⟨place⟩

end ObjectRef

/-- A region that a collector scans: its size in bytes and its mask. -/
structure RootRegion where
  size : Nat
  mask : Mask
  deriving DecidableEq, Repr

/-- Why roots cannot be registered. -/
inductive RootError where
  /-- The global region is registered already. -/
  | alreadyRegistered
  /-- The mask describes more bytes than the region holds. -/
  | maskExceedsRegion (covered size : Nat)
  deriving DecidableEq, Repr

def RootError.message : RootError → String
  | alreadyRegistered => "global root region is already registered"
  | maskExceedsRegion covered size =>
    "global mask covers " ++ toString covered ++ " bytes but the buffer holds " ++ toString size

/-- The root regions of a program: at most one, the global buffer. -/
structure RootSet where
  global : Option RootRegion
  deriving DecidableEq, Repr

namespace RootSet

def empty : RootSet := ⟨none⟩

def size (roots : RootSet) : Nat :=
  roots.global.toList.length

/-- Registers the global buffer. -/
def register (roots : RootSet) (size : Nat) (mask : Mask) : Except RootError RootSet :=
  if roots.global.isSome then .error .alreadyRegistered
  else if mask.covered > size then .error (.maskExceedsRegion mask.covered size)
  else .ok ⟨some ⟨size, mask⟩⟩

end RootSet

/-- Why the heap refuses a request. -/
inductive HeapError where
  /-- Type zero has no header. -/
  | nullTypeId
  /-- Values of the type are stored inline only. -/
  | noHeapForm (tid : TypeId) (name : String)
  /-- The payload is longer than the heap form of the type. -/
  | payloadTooLarge (name : String) (length heapSize : Nat)
  /-- The heap would grow over its limit. -/
  | limitExceeded (limit : Nat)
  /-- The roots cannot be registered. -/
  | root (error : RootError)
  deriving DecidableEq, Repr

def HeapError.message : HeapError → String
  | nullTypeId => "cannot allocate an object of TypeID 0"
  | noHeapForm tid name => "type " ++ name ++ " (" ++ tid.text ++ ") has no heap form"
  | payloadTooLarge name length heapSize =>
    "payload of " ++ toString length ++ " bytes does not fit " ++ name ++
      " (heapsize " ++ toString heapSize ++ ")"
  | limitExceeded limit => "heap limit of " ++ toString limit ++ " bytes exceeded"
  | root error => error.message

/-- A heap object: its header and its payload. -/
structure HeapObject where
  header : HeaderWord
  data : List UInt8
  deriving DecidableEq, Repr

/-- The bytes an object takes, its header included. -/
def HeapObject.footprint (object : HeapObject) : Nat :=
  object.data.length + wordSize

/-- The objects of a program, its roots, and the bytes allocated and allowed. -/
structure Heap where
  objects : Array HeapObject
  roots : RootSet
  allocatedBytes : Nat
  /-- The most bytes that may be allocated; zero for no limit. -/
  limit : Nat
  deriving DecidableEq, Repr

namespace Heap

def empty (limit : Nat) : Heap :=
  ⟨#[], .empty, 0, limit⟩

def count (heap : Heap) : Nat :=
  heap.objects.size

def get? (heap : Heap) (obj : ObjectRef) : Option HeapObject :=
  heap.objects[obj.place]?

/-- Changes the limit. -/
def setLimit (heap : Heap) (limit : Nat) : Heap :=
  { heap with limit }

/-- Changes the header of an object. -/
def setHeader (heap : Heap) (obj : ObjectRef) (header : HeaderWord) : Heap :=
  { heap with objects := heap.objects.modify obj.place fun object => { object with header } }

/-- Adds a young object whose payload starts with the given bytes and goes on with
    zeros. -/
def allocate (heap : Heap) (desc : TypeDescriptor) (payload : List UInt8) :
    Except HeapError (ObjectRef × Heap) :=
  let size := desc.size.heapSize
  if desc.tid = .none then .error .nullTypeId
  else if !desc.hasHeapForm then .error (.noHeapForm desc.tid desc.name)
  else if payload.length > size then .error (.payloadTooLarge desc.name payload.length size)
  else if heap.limit > 0 && heap.allocatedBytes + (size + wordSize) > heap.limit then
    .error (.limitExceeded heap.limit)
  else
    let object : HeapObject :=
      ⟨.ofYoung desc.tid, payload ++ List.replicate (size - payload.length) 0⟩
    .ok (⟨heap.count⟩,
      { heap with
        objects := heap.objects.push object
        allocatedBytes := heap.allocatedBytes + (size + wordSize) })

/-- Registers the global buffer as the region of roots. -/
def registerRoots (heap : Heap) (size : Nat) (mask : Mask) : Except HeapError Heap :=
  match heap.roots.register size mask with
  | .ok roots => .ok { heap with roots }
  | .error error => .error (.root error)

/-- The word at an offset of a buffer, if the buffer reaches that far. -/
def wordAt? (buffer : ByteArray) (offset : Nat) : Option Nat :=
  if offset + wordSize ≤ buffer.size then
    some (LittleEndian.decode ((List.range wordSize).map fun i => buffer.get! (offset + i)))
  else none

/-- The reference in a slot of a buffer. A pointer slot holds a reference word. A
    string slot holds one in its first word when its last byte is zero. -/
def slotRef? (buffer : ByteArray) (slot : MaskSlot) : Option ObjectRef := do
  let word ← wordAt? buffer slot.offset
  match slot.kind with
  | .pointer => ObjectRef.ofRaw? word
  | .string =>
    let last := slot.offset + 2 * wordSize - 1
    if last < buffer.size && buffer.get! last == 0 then ObjectRef.ofRaw? word else none
  | _ => none

/-- The objects that a global buffer refers to, in the order of the slots of the
    registered mask. -/
def globalRoots (heap : Heap) (buffer : ByteArray) : List ObjectRef :=
  match heap.roots.global with
  | none => []
  | some region =>
    (region.mask.walk.filterMap (slotRef? buffer)).filter fun obj => obj.place < heap.count

end Heap

end ProgramImage
