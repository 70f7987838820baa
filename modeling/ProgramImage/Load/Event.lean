import ProgramImage.Flavors
import ProgramImage.Heap
import ProgramImage.Invoke
import ProgramImage.Regexes

/-!
# What happens during a load

A load tells what it does as a list of events. An event has a level of importance, a
message and named values.
-/

namespace ProgramImage

/-- The phases of a load, in their order. -/
inductive LoadPhase where
  | sources
  | globalBuffer
  | names
  | types
  | boxedTypes
  | listFlavors
  | mapFlavors
  | invokes
  | regexes
  | literals
  | validators
  | constants
  deriving DecidableEq, Repr

def LoadPhase.text : LoadPhase → String
  | sources => "sources"
  | globalBuffer => "global buffer"
  | names => "names"
  | types => "types"
  | boxedTypes => "boxed types"
  | listFlavors => "list flavors"
  | mapFlavors => "map flavors"
  | invokes => "invokes"
  | regexes => "regexes"
  | literals => "literals"
  | validators => "validators"
  | constants => "constants"

/-- How much an event matters. -/
inductive EventLevel where
  | warn
  | debug
  | trace
  deriving DecidableEq, Repr

namespace EventLevel

def all : List EventLevel :=
  [warn, debug, trace]

def name : EventLevel → String
  | warn => "WARN"
  | debug => "DEBUG"
  | trace => "TRACE"

/-- The level with a name, in upper or lower case. -/
def ofName? (text : String) : Option EventLevel :=
  all.find? fun level => level.name == text.toUpper

/-- The rank of a level, the most important first. -/
def rank : EventLevel → Nat
  | warn => 0
  | debug => 1
  | trace => 2

end EventLevel

/-- What happened. -/
inductive LoadEvent where
  /-- A phase with `count` declarations, or bytes of the global buffer, starts. -/
  | phase (stage : LoadPhase) (count : Nat)
  | repeatedName (space : Namespace) (name : String) (id : Nat)
  | declaredType (tid : TypeId) (name kind : String)
  | listFlavor (flavor : ListFlavor)
  | mapFlavor (flavor : MapFlavor)
  | repeatedRegex (text : String)
  | addedRegex (text : String) (id : RegexId)
  | repeatedValidator (tid : TypeId)
  | allocated (obj : ObjectRef) (tid : TypeId) (size : Nat)
  /-- A constant has another type than the result of its callable. -/
  | otherResult (invoke : Invoke) (expected : TypeId)
  | evaluating (offset : Nat) (invoke : Invoke) (tid : TypeId)
  | undeclaredType (tid : TypeId) (name : String)
  | loaded (types objects : Nat)

namespace LoadEvent

/-- How much an event matters. -/
def level : LoadEvent → EventLevel
  | .repeatedName .. | .repeatedRegex _ | .repeatedValidator _ | .otherResult ..
  | .undeclaredType .. => .warn
  | .declaredType .. | .allocated .. => .trace
  | _ => .debug

def message : LoadEvent → String
  | phase .. => "load phase"
  | repeatedName .. => "name declared more than once; keeping both IDs"
  | declaredType .. => "declared type"
  | listFlavor _ => "registered list flavor"
  | mapFlavor _ => "registered map flavor"
  | repeatedRegex _ => "regex declared more than once; keeping the first"
  | addedRegex .. => "registered regex"
  | repeatedValidator _ => "type already has a validator; keeping the first"
  | allocated .. => "allocated"
  | otherResult .. => "initializer result type differs from constant type"
  | evaluating .. => "evaluating constant"
  | undeclaredType .. => "type name interned but never declared"
  | loaded .. => "assembly loaded"

/-- The named values of an event. -/
def values : LoadEvent → List (String × Json)
  | phase stage count => [("phase", .string stage.text), ("count", .ofNat count)]
  | repeatedName space name id =>
    [("namespace", .string space.label), ("name", .string name), ("id", .ofNat id)]
  | declaredType tid name kind =>
    [("tid", .string tid.text), ("name", .string name), ("kind", .string kind)]
  | listFlavor flavor =>
    [("ltype", .string flavor.list.text), ("entry", .string flavor.entry.text)]
  | mapFlavor flavor =>
    [("mtype", .string flavor.map.text), ("key", .string flavor.key.text),
     ("value", .string flavor.value.text)]
  | repeatedRegex text => [("restr", .string text)]
  | addedRegex text id => [("restr", .string text), ("id", .string id.text)]
  | repeatedValidator tid => [("vtype", .string tid.text)]
  | allocated obj tid size =>
    [("obj", .ofNat obj.raw), ("tid", .string tid.text), ("size", .ofNat size)]
  | otherResult invoke expected =>
    [("invoke", .string invoke.name), ("declared", .string invoke.result.text),
     ("expected", .string expected.text)]
  | evaluating offset invoke tid =>
    [("offset", .ofNat offset), ("invoke", .string invoke.name), ("tid", .string tid.text)]
  | undeclaredType tid name => [("tid", .string tid.text), ("name", .string name)]
  | loaded types objects => [("types", .ofNat types), ("heap_objects", .ofNat objects)]

/-- Whether an event matters as much as a level or more. -/
def reaches (level : EventLevel) (event : LoadEvent) : Bool :=
  event.level.rank ≤ level.rank

def toJson (event : LoadEvent) : Json :=
  .ofMembers <| [("level", .string event.level.name), ("message", .string event.message)] ++
    event.values

/-- The allocations that took a heap of `count` objects to the given one. -/
def allocationsSince (count : Nat) (heap : Heap) : List LoadEvent :=
  ((heap.objects.toList.drop count).zipIdx count).map fun (object, place) =>
    allocated ⟨place⟩ object.header.tid object.data.length

end LoadEvent

end ProgramImage
