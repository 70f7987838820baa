import ProgramImage.Reserved
import ProgramImage.Text.Quoted
import Std.Data.ExtTreeMap

/-!
# The name registry

Each namespace numbers its names from zero. The type namespace starts with the
reserved names and gives a name one number however often it occurs. The other
namespaces number every occurrence, and a look-up finds the latest. Numbers are
kept as they are and not cut down to 32 bits, which they outgrow only behind 2^32
names of one namespace: see `Load.numbers_fit_of_load`.

## Main definitions

* `NameTable` holds the names of one namespace by their numbers, and with them the last
  number of each name; `NameTable.find?_eq` says that both agree.
* `NameRegistry.lookup` and `NameRegistry.resolve` go from names to numbers and
  back.
* `NameRegistry.internType` numbers a type name unless it has a number;
  `NameRegistry.push` numbers a further occurrence in another namespace.
-/

namespace ProgramImage

/-- Why a name cannot be numbered. -/
inductive NameError where
  /-- No further type identifier fits an object header. -/
  | typeIdsExhausted (name : String) (max : Nat)
  deriving DecidableEq, Repr

def NameError.message : NameError → String
  | typeIdsExhausted name max =>
    "type ID space exhausted interning " ++ Text.quote name ++ " (max " ++ toString max ++ ")"

/-- The last place below `bound` where a name stands. -/
def lastPlaceBelow (names : Array String) (name : String) : Nat → Option Nat
  | 0 => none
  | bound + 1 =>
    if names[bound]? = some name then some bound else lastPlaceBelow names name bound

/-- Names further back do not count. -/
theorem lastPlaceBelow_push (names : Array String) (last name : String) (bound : Nat)
    (bound_le : bound ≤ names.size) :
    lastPlaceBelow (names.push last) name bound = lastPlaceBelow names name bound := by
  induction bound with
  | zero => rfl
  | succ bound ih =>
    have inside : (names.push last)[bound]? = names[bound]? := by
      rw [Array.getElem?_push, if_neg (by omega)]
    rw [lastPlaceBelow, lastPlaceBelow, inside, ih (by omega)]

/-- Names in the order of their numbers, and the last number of each. -/
structure NameTable where
  names : Array String
  places : Std.ExtTreeMap String Nat
  getElem?_places : ∀ name, places[name]? = lastPlaceBelow names name names.size

namespace NameTable

/-- Tables of the same names are the same. -/
theorem eq_of_names_eq {first second : NameTable} (names_eq : first.names = second.names) :
    first = second := by
  obtain ⟨names, places, getElem?_places⟩ := first
  obtain ⟨others, otherPlaces, getElem?_otherPlaces⟩ := second
  obtain rfl : names = others := names_eq
  obtain rfl : places = otherPlaces :=
    Std.ExtTreeMap.ext_getElem? fun name => by rw [getElem?_places, getElem?_otherPlaces]
  rfl

instance : DecidableEq NameTable := fun first second =>
  decidable_of_iff (first.names = second.names) ⟨eq_of_names_eq, congrArg names⟩

def empty : NameTable where
  names := #[]
  places := ∅
  getElem?_places _ := by simp [lastPlaceBelow]

def push : NameTable → String → NameTable
  | ⟨names, places, getElem?_places⟩, name =>
    let last := names.size
    { names := names.push name
      places := places.insert name last
      getElem?_places other := by
        rw [Std.ExtTreeMap.getElem?_insert, getElem?_places, Array.size_push, lastPlaceBelow,
          lastPlaceBelow_push _ _ _ _ (Nat.le_refl _), Array.getElem?_push, if_pos rfl]
        simp only [Std.LawfulEqCmp.compare_eq_iff_eq, Option.some.injEq, last] }

/-- A table of some names. -/
def ofList (names : List String) : NameTable :=
  names.foldl push empty

def size (table : NameTable) : Nat :=
  table.names.size

/-- The last number of a name. -/
def find? (table : NameTable) (name : String) : Option Nat :=
  table.places[name]?

/-- A number is found where the name stands last. -/
theorem find?_eq (table : NameTable) (name : String) :
    table.find? name = lastPlaceBelow table.names name table.size :=
  table.getElem?_places name

end NameTable

/-- The names of a program by namespace, each at the place of its number. -/
structure NameRegistry where
  types : NameTable
  properties : NameTable
  fields : NameTable
  invokes : NameTable
  virtualInvokes : NameTable
  deriving DecidableEq

namespace NameRegistry

/-- The registry before any name is declared. -/
def initial : NameRegistry where
  types := .ofList reservedNames
  properties := .empty
  fields := .empty
  invokes := .empty
  virtualInvokes := .empty

/-- The table of one namespace. -/
def table (registry : NameRegistry) : Namespace → NameTable
  | .type => registry.types
  | .property => registry.properties
  | .field => registry.fields
  | .invoke => registry.invokes
  | .virtualInvoke => registry.virtualInvokes

/-- The names of one namespace. -/
def names (registry : NameRegistry) (space : Namespace) : Array String :=
  (registry.table space).names

def count (registry : NameRegistry) (space : Namespace) : Nat :=
  (registry.table space).size

/-- The identifier of a name, the latest when it occurs more than once. -/
def lookup (registry : NameRegistry) (space : Namespace) (name : String) :
    Option (Index space) :=
  ((registry.table space).find? name).map Index.mk

/-- The name behind an identifier. -/
def resolve (registry : NameRegistry) {space : Namespace} (index : Index space) :
    Option String :=
  (registry.names space)[index.value]?

/-- Gives the next identifier of a namespace to a name, whether or not the name
    has one already. -/
def push (registry : NameRegistry) (space : Namespace) (name : String) :
    Index space × NameRegistry :=
  (⟨registry.count space⟩,
    match space with
    | .type => { registry with types := registry.types.push name }
    | .property => { registry with properties := registry.properties.push name }
    | .field => { registry with fields := registry.fields.push name }
    | .invoke => { registry with invokes := registry.invokes.push name }
    | .virtualInvoke => { registry with virtualInvokes := registry.virtualInvokes.push name })

/-- The identifier of a type name, which is a new one when the name is new. Without room for
    a new one the registry stays as it is. -/
def internType (registry : NameRegistry) (name : String) :
    Except NameError TypeId × NameRegistry :=
  match registry.lookup .type name with
  | some tid => (.ok tid, registry)
  | none =>
    if registry.count .type > TypeId.max then
      (.error (.typeIdsExhausted name TypeId.max), registry)
    else
      let (tid, registry) := registry.push .type name
      (.ok tid, registry)

/-- Numbers a name in the way of its namespace. -/
def intern (registry : NameRegistry) (space : Namespace) (name : String) :
    Except NameError (Index space) × NameRegistry :=
  match space with
  | .type => registry.internType name
  | space =>
    let (index, registry) := registry.push space name
    (.ok index, registry)

end NameRegistry

end ProgramImage
