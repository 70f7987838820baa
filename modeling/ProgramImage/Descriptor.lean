import ProgramImage.Index
import ProgramImage.Mask

/-!
# Type descriptors

One `TypeDescriptor` exists for every loaded type. `SizeInfo` gives the sizes and
masks of the two forms a value can take, in a slot and on the heap, and `TypeKind`
what is particular to the kind of type. The physical layout follows from the kind:
collections and string representations are laid out as references.
-/

namespace ProgramImage

/-- The families of physical layout. -/
inductive Layout where
  | register
  | struct
  | boxedStruct
  | string
  | bigNum
  | ref
  | unionRef
  | unionInline
  | unionUniversal
  deriving DecidableEq, Repr

def Layout.name : Layout → String
  | register => "Register"
  | struct => "Struct"
  | boxedStruct => "BoxedStruct"
  | string => "String"
  | bigNum => "BigNum"
  | ref => "Ref"
  | unionRef => "UnionRef"
  | unionInline => "UnionInline"
  | unionUniversal => "UnionUniversal"

/-- The sizes of a type in bytes and the masks of its two forms. -/
structure SizeInfo where
  /-- The heap form, without its header word. -/
  heapSize : Nat
  /-- The form in a storage slot, tag included. -/
  inlineSize : Nat
  /-- What an assignment copies. -/
  assignSize : Nat
  /-- The mask of the heap form, absent when it holds no pointers. -/
  heapMask : Option Mask
  /-- The mask of the inline form. -/
  inlineMask : Mask
  deriving DecidableEq, Repr, Inhabited

namespace SizeInfo

/-- The sizes of a scalar: no heap form, and an inline form of skipped words. -/
def register (inlineSize assignSize : Nat) : SizeInfo where
  heapSize := 0
  inlineSize := inlineSize
  assignSize := assignSize
  heapMask := none
  inlineMask := ⟨List.replicate (wordsFor inlineSize) .skip⟩

/-- The sizes of a heap object that one pointer word refers to. -/
def reference (heapSize : Nat) (heapMask : Option Mask) : SizeInfo where
  heapSize := heapSize
  inlineSize := wordSize
  assignSize := wordSize
  heapMask := heapMask
  inlineMask := ⟨[.pointer]⟩

/-- Whether the heap form has a traced slot. -/
def heapHasPointers (size : SizeInfo) : Bool :=
  size.heapMask.any Mask.hasPointers

end SizeInfo

/-- How the bytes of a long string are held on the heap. -/
inductive StringRepr where
  /-- A buffer of fixed capacity in bytes. -/
  | buffer (capacity : Nat)
  /-- A concatenation tree. -/
  | tree
  deriving DecidableEq, Repr

/-- The fields of a struct or entity, and the byte offset of each, in order. -/
structure FieldLayout where
  fields : List FieldId
  offsets : List Nat
  deriving DecidableEq, Repr, Inhabited

/-- The layout of a type whose fields are not declared. -/
def FieldLayout.empty : FieldLayout := ⟨[], []⟩

/-- The byte offset of the first entry for a field. -/
def FieldLayout.offsetOf (layout : FieldLayout) (field : FieldId) : Option Nat :=
  ((layout.fields.zip layout.offsets).find? (·.1 == field)).map (·.2)

/-- The three ways to lay out a union. -/
inductive UnionForm where
  /-- All members are references. -/
  | reference
  /-- A tag word and inline content. -/
  | inline
  /-- A tag word and content wide enough for any value. -/
  | universal
  deriving DecidableEq, Repr

/-- What is particular to a kind of type. -/
inductive TypeKind where
  /-- A scalar. -/
  | register
  /-- An inline struct. -/
  | struct (layout : FieldLayout)
  /-- A struct behind a pointer. -/
  | boxedStruct (wrapped : TypeId)
  /-- The string value type. -/
  | string
  /-- A backing representation of strings. -/
  | stringRepr (repr : StringRepr)
  /-- A big number. -/
  | bigNum
  /-- An entity on the heap. -/
  | ref (layout : FieldLayout)
  /-- A list chunk of a few entries. -/
  | partialVector (entry : TypeId) (capacity : Nat)
  /-- A tree node of a large list. -/
  | listTree (entry : TypeId)
  /-- A tree node of a map. -/
  | mapTree (key value : TypeId)
  /-- A union. -/
  | union (form : UnionForm) (members : List TypeId)
  deriving DecidableEq, Repr

namespace TypeKind

/-- The physical layout of a kind. -/
def layout : TypeKind → Layout
  | register => .register
  | struct _ => .struct
  | boxedStruct _ => .boxedStruct
  | string => .string
  | bigNum => .bigNum
  | stringRepr _ | ref _ | partialVector .. | listTree _ | mapTree .. => .ref
  | union .reference _ => .unionRef
  | union .inline _ => .unionInline
  | union .universal _ => .unionUniversal

def name : TypeKind → String
  | register => "Register"
  | struct _ => "Struct"
  | boxedStruct _ => "BoxedStruct"
  | string => "String"
  | stringRepr _ => "StringRepr"
  | bigNum => "BigNum"
  | ref _ => "Ref"
  | partialVector .. => "PartialVector"
  | listTree _ => "ListTree"
  | mapTree .. => "MapTree"
  | union .reference _ => "UnionRef"
  | union .inline _ => "UnionInline"
  | union .universal _ => "UnionUniversal"

/-- The field layout of a struct or entity. -/
def fieldLayout? : TypeKind → Option FieldLayout
  | struct layout | ref layout => some layout
  | _ => none

end TypeKind

/-- The description of a loaded type. -/
structure TypeDescriptor where
  tid : TypeId
  /-- The name that reports show. -/
  name : String
  size : SizeInfo
  kind : TypeKind
  deriving DecidableEq, Repr

namespace TypeDescriptor

/-- The physical layout of a type. -/
def layout (desc : TypeDescriptor) : Layout :=
  desc.kind.layout

/-- Whether values of the type can be heap objects with a header word. -/
def hasHeapForm (desc : TypeDescriptor) : Bool :=
  desc.layout == .ref || desc.layout == .boxedStruct

/-- Whether the inline form has a traced slot. -/
def inlineHasPointers (desc : TypeDescriptor) : Bool :=
  desc.size.inlineMask.hasPointers

def text (desc : TypeDescriptor) : String :=
  desc.tid.text ++ " " ++ desc.name ++ " (" ++ desc.kind.name ++ ")"

end TypeDescriptor

/-- The description of a declared field. -/
structure FieldDescriptor where
  id : FieldId
  name : String
  declaredType : TypeId
  isOptional : Bool
  deriving DecidableEq, Repr

end ProgramImage
