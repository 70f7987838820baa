import ProgramImage.Reserved

/-!
# Tables indexed by identifier

A table has one slot for every identifier of a namespace. A declaration is stored
at its own identifier, and at most once. The table of types starts with the
reserved descriptors in place, so it is never shorter than they are many.
-/

namespace ProgramImage

/-- What can be stored in a table of its own: things that know their place. -/
class Declared (α : Type) where
  /-- What the table is called in diagnostics. -/
  label : String
  /-- The place of a declaration. -/
  place : α → Nat

/-- Why a declaration cannot be stored. -/
inductive TableError where
  /-- The place is not in the table. -/
  | outOfRange (table : String) (place size : Nat)
  /-- The place is taken. -/
  | duplicate (table : String) (place : Nat)
  deriving DecidableEq, Repr

def TableError.message : TableError → String
  | outOfRange table place size =>
    table ++ " slot " ++ toString place ++ " is out of range (table size " ++ toString size ++ ")"
  | duplicate table place => table ++ " slot " ++ toString place ++ " is declared twice"

/-- A table of declarations, one slot for each identifier. -/
structure SlotTable (α : Type) where
  slots : Array (Option α)
  deriving Repr

namespace SlotTable

variable {α : Type}

def empty (size : Nat) : SlotTable α :=
  ⟨Array.replicate size none⟩

def size (table : SlotTable α) : Nat :=
  table.slots.size

def get? (table : SlotTable α) (place : Nat) : Option α :=
  (table.slots[place]?).join

def insert [Declared α] (table : SlotTable α) (item : α) : Except TableError (SlotTable α) :=
  let place := Declared.place item
  if h : place < table.slots.size then
    match table.slots[place] with
    | none => .ok ⟨table.slots.set place (some item)⟩
    | some _ => .error (.duplicate (Declared.label α) place)
  else .error (.outOfRange (Declared.label α) place table.slots.size)

def toList (table : SlotTable α) : List α :=
  table.slots.toList.filterMap id

/-- The number of slots that hold a declaration. -/
def populated (table : SlotTable α) : Nat :=
  table.toList.length

/-- The places of the empty slots, in increasing order. -/
def missing (table : SlotTable α) : List Nat :=
  (List.range table.size).filter fun place => (table.get? place).isNone

end SlotTable

instance : Declared TypeDescriptor where
  label := "type"
  place desc := desc.tid.value

instance : Declared FieldDescriptor where
  label := "field"
  place desc := desc.id.value

/-- The types of a program. -/
abbrev TypeTable := SlotTable TypeDescriptor

/-- The fields of a program. -/
abbrev FieldTable := SlotTable FieldDescriptor

/-- A table of types with the reserved descriptors in place. It is as long as
    asked for, but never shorter than the reserved descriptors. -/
def TypeTable.reserved (size : Nat) : TypeTable :=
  ⟨reservedDescriptors.toArray.map some ++ Array.replicate (size - reservedDescriptors.length) none⟩

/-- The descriptor of a type, if it is loaded. -/
def TypeTable.type? (table : TypeTable) (tid : TypeId) : Option TypeDescriptor :=
  table.get? tid.value

/-- The descriptors that are not reserved, in the order of their numbers. -/
def TypeTable.declared (table : TypeTable) : List TypeDescriptor :=
  table.toList.filter fun desc => !desc.tid.isReserved

/-- The types that are numbered and have no descriptor. -/
def TypeTable.undeclared (table : TypeTable) : List TypeId :=
  table.missing.map Index.mk

/-- Where a field stands in the values of a type that lays out its fields. -/
def TypeTable.offsetOf? (table : TypeTable) (tid : TypeId) (field : FieldId) : Option Nat := do
  let desc ← table.type? tid
  let layout ← desc.kind.fieldLayout?
  layout.offsetOf field

end ProgramImage
