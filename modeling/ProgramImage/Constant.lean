import ProgramImage.Invoke
import ProgramImage.Memory
import ProgramImage.Trap

/-!
# Computed constants

A constant that takes running code is computed by a callable without parameters, which
leaves its result at an offset of the global buffer. `Initializer` stands for what runs
such a callable; this library has one that runs nothing and faults, and one that takes
down what there would be to run.

## Main definitions

* `Constant.request` checks a constant and finds its callable and its type.
* `Constant.evaluate` checks a constant and passes it to an initializer.
-/

namespace ProgramImage

/-- Why a constant cannot be computed. -/
inductive ConstantError where
  /-- The callable is not declared. -/
  | missingInvoke (id : InvokeId)
  | notABody (name : String)
  | hasParameters (name : String) (count : Nat)
  /-- The type is not loaded. -/
  | missingType (tid : TypeId)
  | global (error : GlobalError)
  | trapped (name : String) (trap : Trap)
  deriving DecidableEq, Repr

def ConstantError.message : ConstantError → String
  | missingInvoke id => "constant initializer " ++ id.text ++ " is not declared"
  | notABody name => "constant initializer " ++ name ++ " has no body"
  | hasParameters name count =>
    "constant initializer " ++ name ++ " takes " ++ toString count ++ " parameters"
  | missingType tid => "constant type " ++ tid.text ++ " has no descriptor"
  | global error => error.message
  | trapped name trap => "constant initializer " ++ name ++ " trapped: " ++ trap.text

/-- What there is to run for a constant. -/
structure ConstantRequest where
  /-- Where the result goes in the global buffer. -/
  offset : Nat
  type : TypeDescriptor
  invoke : Invoke

/-- What runs the callables of constants, with a state of its own. A run may change the
    memory even when it traps. -/
structure Initializer (σ : Type) where
  run : ConstantRequest → σ → Memory → Except Trap Unit × σ × Memory

/-- A constant that was not computed. -/
structure PendingConstant where
  offset : Nat
  invoke : InvokeId
  type : TypeId
  deriving DecidableEq, Repr

namespace Initializer

/-- Runs nothing: every constant faults. -/
def absent : Initializer Unit where
  run request state memory :=
    (.error ⟨.fault, "no interpreter available to evaluate " ++ request.invoke.name, none⟩,
      state, memory)

/-- Takes down the constants in the order of their evaluation, and leaves the memory as
    it is. -/
def deferring : Initializer (List PendingConstant) where
  run request pending memory :=
    (.ok (), pending ++ [⟨request.offset, request.invoke.id, request.type.tid⟩], memory)

end Initializer

namespace Constant

/-- Finds the callable and the type of a constant. -/
def request (invokes : InvokeTable) (types : TypeTable) (offset : Nat) (id : InvokeId)
    (tid : TypeId) : Except ConstantError ConstantRequest :=
  match invokes.get? id.value with
  | none => .error (.missingInvoke id)
  | some invoke =>
    if invoke.isPrimitive then .error (.notABody invoke.name)
    else if !invoke.params.isEmpty then
      .error (.hasParameters invoke.name invoke.params.length)
    else match types.type? tid with
      | none => .error (.missingType tid)
      | some type => .ok ⟨offset, type, invoke⟩

/-- Refuses a constant whose value would run past the end of the global buffer. -/
def checkSlot (memory : Memory) (request : ConstantRequest) : Except ConstantError Unit :=
  match memory.globals.checkRange request.offset request.type.size.inlineSize with
  | .ok () => .ok ()
  | .error error => .error (.global error)

/-- Passes a constant to an initializer. -/
def run {σ : Type} (initializer : Initializer σ) (request : ConstantRequest) (state : σ)
    (memory : Memory) : Except ConstantError Unit × σ × Memory :=
  match initializer.run request state memory with
  | (.ok (), state, memory) => (.ok (), state, memory)
  | (.error trap, state, memory) => (.error (.trapped request.invoke.name trap), state, memory)

/-- Computes a constant. -/
def evaluate {σ : Type} (initializer : Initializer σ) (invokes : InvokeTable)
    (types : TypeTable) (state : σ) (memory : Memory) (offset : Nat) (id : InvokeId)
    (tid : TypeId) : Except ConstantError Unit × σ × Memory :=
  match request invokes types offset id tid with
  | .error error => (.error error, state, memory)
  | .ok request =>
    match checkSlot memory request with
    | .error error => (.error error, state, memory)
    | .ok () => run initializer request state memory

end Constant

end ProgramImage
