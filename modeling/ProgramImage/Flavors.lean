import ProgramImage.Index

/-!
# Representations of collections

A flavor tells which types back a list type or a map type: chunks for small
collections and trees for large ones. There is one flavor for each type of entries,
and one for each pair of a key type and a value type.
-/

namespace ProgramImage

/-- The types that represent a list type. -/
structure ListFlavor where
  list : TypeId
  repr : TypeId
  entry : TypeId
  /-- The chunk of four entries. -/
  vector4 : TypeId
  /-- The chunk of eight entries. -/
  vector8 : TypeId
  tree : TypeId
  deriving DecidableEq, Repr

/-- The types that represent a map type. -/
structure MapFlavor where
  map : TypeId
  repr : TypeId
  key : TypeId
  value : TypeId
  /-- The pair of a key and a value. -/
  tuple : TypeId
  tree : TypeId
  deriving DecidableEq, Repr

/-- A key type and a value type. -/
structure EntryTypes where
  key : TypeId
  value : TypeId
  deriving DecidableEq, Repr

instance : KeyOrder EntryTypes where
  before a b := KeyOrder.before a.key b.key || (a.key == b.key && KeyOrder.before a.value b.value)

/-- The types of the entries of a map. -/
def MapFlavor.entryTypes (flavor : MapFlavor) : EntryTypes :=
  ⟨flavor.key, flavor.value⟩

/-- Why a flavor cannot be registered. -/
inductive FlavorError where
  | duplicateList (entry : TypeId)
  | duplicateMap (key value : TypeId)
  deriving DecidableEq, Repr

def FlavorError.message : FlavorError → String
  | duplicateList entry => "duplicate list flavor for entry type " ++ entry.text
  | duplicateMap key value =>
    "duplicate map flavor for (" ++ key.text ++ ", " ++ value.text ++ ")"

/-- The flavors of a program, in the order of the types they are for. -/
structure Flavors where
  lists : List (TypeId × ListFlavor)
  maps : List (EntryTypes × MapFlavor)
  deriving DecidableEq, Repr

namespace Flavors

def empty : Flavors := ⟨[], []⟩

/-- The flavor for lists of a type. -/
def list? (flavors : Flavors) (entry : TypeId) : Option ListFlavor :=
  Keyed.get? entry flavors.lists

/-- The flavor for maps from one type to another. -/
def map? (flavors : Flavors) (key value : TypeId) : Option MapFlavor :=
  Keyed.get? ⟨key, value⟩ flavors.maps

/-- Registers a flavor for lists. -/
def registerList (flavors : Flavors) (flavor : ListFlavor) : Except FlavorError Flavors :=
  if (flavors.list? flavor.entry).isSome then .error (.duplicateList flavor.entry)
  else .ok { flavors with lists := Keyed.insert flavor.entry flavor flavors.lists }

/-- Registers a flavor for maps. -/
def registerMap (flavors : Flavors) (flavor : MapFlavor) : Except FlavorError Flavors :=
  if (flavors.map? flavor.key flavor.value).isSome then
    .error (.duplicateMap flavor.key flavor.value)
  else .ok { flavors with maps := Keyed.insert flavor.entryTypes flavor flavors.maps }

end Flavors

end ProgramImage
