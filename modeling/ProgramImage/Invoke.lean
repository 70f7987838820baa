import ProgramImage.Document.Basic
import ProgramImage.SlotTable

/-!
# Callables

A callable is a body of instructions or a primitive of the runtime. The layout of a
body's frame and the signature are resolved to identifiers; the instructions are kept
as they are.
-/

namespace ProgramImage

/-- A parameter of a callable. -/
structure Param where
  name : String
  type : TypeId
  deriving DecidableEq, Repr

/-- A lambda that a primitive takes. -/
structure Lambda where
  /-- The callable that implements it. -/
  code : InvokeId
  /-- The positions of the arguments it captures. -/
  captures : List UInt32
  deriving DecidableEq, Repr

/-- The frame and the instructions of a body. -/
structure Body where
  isUserCode : Bool
  /-- The bytes of the frame that are never traced. -/
  scalarBytes : Nat
  /-- The bytes of the frame that may be traced. -/
  mixedBytes : Nat
  mixedMask : Mask
  maskSlots : UInt32
  argMaskSize : UInt32
  paramInfo : List Json
  resultInfo : Json
  instructions : List Json
  deriving Repr

/-- What a primitive is bound to. -/
structure Primitive where
  /-- The type it is declared on. -/
  enclosingType : Option TypeId
  implementation : String
  /-- The types bound to template parameters, in the order of the parameters. -/
  bindings : List (String × TypeId)
  /-- The lambdas it takes, in the order of their names. -/
  lambdas : List (String × Lambda)
  deriving DecidableEq, Repr

/-- What is particular to a kind of callable. -/
inductive InvokeKind where
  | body (body : Body)
  | primitive (primitive : Primitive)
  deriving Repr

/-- A callable. -/
structure Invoke where
  id : InvokeId
  name : String
  file : String
  start : SourceSpan
  stop : SourceSpan
  isRecursive : Bool
  params : List Param
  result : TypeId
  kind : InvokeKind
  deriving Repr

namespace Invoke

/-- The body of a callable that is no primitive. -/
def body? (invoke : Invoke) : Option Body :=
  match invoke.kind with
  | .body body => some body
  | .primitive _ => none

/-- Whether a callable is a primitive. -/
def isPrimitive (invoke : Invoke) : Bool :=
  invoke.body?.isNone

/-- Whether a callable was written by the user. -/
def isUserCode (invoke : Invoke) : Bool :=
  invoke.body?.any Body.isUserCode

end Invoke

instance : Declared Invoke where
  label := "invoke"
  place invoke := invoke.id.value

/-- The callables of a program. -/
abbrev InvokeTable := SlotTable Invoke

end ProgramImage
