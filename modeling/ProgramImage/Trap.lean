/-!
# Traps

A trap is a fault of the running program: an unconditional fault, a failed
assertion or an abort. It travels as an error to the one checkpoint that reports it
with the code of its kind.
-/

namespace ProgramImage

/-- The kinds of traps. -/
inductive TrapKind where
  | fault
  | assertion
  | abort
  deriving DecidableEq, Repr

namespace TrapKind

def all : List TrapKind :=
  [fault, assertion, abort]

/-- The code that a process exits with. -/
def code : TrapKind → Nat
  | fault => 5
  | assertion => 2
  | abort => 3

/-- The kind with a given code. -/
def ofCode? (code : Int) : Option TrapKind :=
  all.find? fun kind => (kind.code : Int) == code

def text : TrapKind → String
  | fault => "fault"
  | assertion => "assertion failed"
  | abort => "abort"

def name : TrapKind → String
  | fault => "Fault"
  | assertion => "Assertion"
  | abort => "Abort"

end TrapKind

/-- A place in a source file. -/
structure SourceLocation where
  file : String
  line : Nat
  deriving DecidableEq, Repr

def SourceLocation.text (location : SourceLocation) : String :=
  location.file ++ ":" ++ toString location.line

/-- A trap: its kind, what went wrong, and where, when that is known. -/
structure Trap where
  kind : TrapKind
  message : String
  location : Option SourceLocation := none
  deriving DecidableEq, Repr

def Trap.text (trap : Trap) : String :=
  trap.kind.text ++ ": " ++ trap.message ++
    match trap.location with
    | some location => " (at " ++ location.text ++ ")"
    | none => ""

end ProgramImage
