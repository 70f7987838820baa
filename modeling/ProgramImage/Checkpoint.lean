import ProgramImage.Trap

/-!
# The checkpoint

Work is done under one checkpoint, which turns an error into a report of the trap that
the error amounts to. A process exits with the code of the report.
-/

namespace ProgramImage

/-- What became of work under the checkpoint. -/
inductive Checkpoint (α : Type) where
  | completed (value : α)
  | trapped (kind : TrapKind) (message : String)
  deriving Repr

namespace Checkpoint

variable {α ε : Type}

/-- Reports work, where `toTrap` tells which trap an error amounts to. -/
def ofExcept (toTrap : ε → Trap) : Except ε α → Checkpoint α
  | .ok value => completed value
  | .error error => trapped (toTrap error).kind (toTrap error).text

/-- The value of completed work. -/
def value? : Checkpoint α → Option α
  | completed value => some value
  | trapped .. => none

/-- The code that a process exits with. -/
def exitCode : Checkpoint α → Nat
  | completed _ => 0
  | trapped kind _ => kind.code

end Checkpoint

end ProgramImage
