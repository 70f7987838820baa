import ProgramImage.Json.Basic

/-!
# JSON texts as trees

A `Node` is what a JSON text says, before anything is decided about it: members in
the order of the text, repeated ones included. A text with a fault still has a tree.
The place where it breaks off is a leaf, or the end of a container, so that a reader
who goes through the tree in order meets the faults of the text, and the misfits of
its content, in the order in which they stand.

Some faults only matter to a reader who wants the value: a number out of range, or a
string that is no text. They stand in the leaf, and a reader who passes over the leaf
does not see them.
-/

namespace ProgramImage

/-- What is wrong with a JSON text. -/
inductive Fault where
  /-- The text ends inside a value. -/
  | unfinished
  /-- The text cannot go on like this. -/
  | malformed
  deriving DecidableEq, Repr

/-- Where a text breaks off: the fault for a reader who wants the value, and for one
    who passes over it. -/
structure Break where
  wanted : Fault
  skipped : Fault
  deriving DecidableEq, Repr

/-- A break that is the same for all readers. -/
def Break.always (fault : Fault) : Break :=
  ⟨fault, fault⟩

/-- A JSON text as a tree. -/
inductive Node where
  | null
  | bool (value : Bool)
  | number (value : Except Fault Number)
  | string (value : Except Fault String)
  /-- The items of an array, and the break before its end. -/
  | array (items : List Node) (stop : Option Break)
  /-- The members of an object, and the break before its end. -/
  | object (members : List (Except Fault String × Node)) (stop : Option Break)
  /-- A value that breaks off. -/
  | broken (stop : Break)
  deriving Inhabited

namespace Node

/-- The members of an object in the order of the text. -/
abbrev Members := List (Except Fault String × Node)

/-- Fails at a break. -/
def passStop : Option Break → Except Fault Unit
  | none => .ok ()
  | some stop => .error stop.skipped

mutual

/-- Passes over a value, and fails where the text breaks off in it. -/
def skip : Node → Except Fault Unit
  | null | bool _ | number _ | string _ => .ok ()
  | array items stop => do skipItems items; passStop stop
  | object members stop => do skipMembers members; passStop stop
  | broken stop => .error stop.skipped

/-- Passes over items. -/
def skipItems : List Node → Except Fault Unit
  | [] => .ok ()
  | item :: rest => do item.skip; skipItems rest

/-- Passes over members. -/
def skipMembers : Members → Except Fault Unit
  | [] => .ok ()
  | (_, value) :: rest => do value.skip; skipMembers rest

end

mutual

/-- The tree of a value. -/
def ofJson : Json → Node
  | .null => null
  | .bool b => bool b
  | .number n => number (.ok n)
  | .string s => string (.ok s)
  | .array items => array (ofItems items) none
  | .object members => object (ofMembers members) none

/-- The trees of items. -/
def ofItems : List Json → List Node
  | [] => []
  | item :: rest => ofJson item :: ofItems rest

/-- The trees of members. -/
def ofMembers : List (String × Json) → Members
  | [] => []
  | (key, value) :: rest => (.ok key, ofJson value) :: ofMembers rest

end

end Node

end ProgramImage
