import ProgramImage.Keyed

/-!
# Dense identifiers

Every name of an assembly is given a number in its namespace, and the tables of
the loaded program are indexed by these numbers. `Index` carries its namespace in
its type, so that the number of a field cannot stand where the number of a type is
asked for.
-/

namespace ProgramImage

/-- The namespaces that names are numbered in. -/
inductive Namespace where
  | type
  | property
  | field
  | invoke
  | virtualInvoke
  deriving DecidableEq, Repr, Inhabited

def Namespace.label : Namespace → String
  | type => "type"
  | property => "property"
  | field => "field"
  | invoke => "invoke"
  | virtualInvoke => "virtual invoke"

/-- How many identifiers of 32 bits there are. -/
def idCount : Nat := 0x100000000

/-- A number given out in one namespace. -/
structure Index (space : Namespace) where
  value : Nat
  deriving DecidableEq, Repr, Inhabited

instance {space : Namespace} : KeyOrder (Index space) where
  before a b := a.value < b.value

def Index.text {space : Namespace} (index : Index space) : String :=
  "#" ++ toString index.value

/-- The identifier of a type. -/
abbrev TypeId := Index .type

/-- The identifier of a field of a struct or entity. -/
abbrev FieldId := Index .field

/-- The identifier of a callable. -/
abbrev InvokeId := Index .invoke

namespace TypeId

/-- The width of a type identifier in an object header. -/
def bits : Nat := 20

/-- The largest type identifier that an object header can hold. -/
def max : Nat := 0xFFFFF

/-- The number of reserved type identifiers. Declared types are numbered from
    here on. -/
def firstDeclared : Nat := 26

/-- Whether a type identifier is reserved. -/
def isReserved (tid : TypeId) : Bool :=
  tid.value < firstDeclared

def none : TypeId := ⟨0⟩
def nothing : TypeId := ⟨1⟩
def bool : TypeId := ⟨2⟩
def nat : TypeId := ⟨3⟩
def int : TypeId := ⟨4⟩
def bigNat : TypeId := ⟨5⟩
def bigInt : TypeId := ⟨6⟩
def float : TypeId := ⟨7⟩
def decimal : TypeId := ⟨8⟩
def rational : TypeId := ⟨9⟩
def string : TypeId := ⟨10⟩
def regex : TypeId := ⟨19⟩

end TypeId

end ProgramImage
