import ProgramImage.Load.Error
import ProgramImage.Load.Event

/-!
# Loading with events

A `Traced` computation gives the events that happened in their order, and a value or
the error at which it stopped. What comes after an error does not happen.
-/

namespace ProgramImage

/-- A value or a load error, and the events on the way to it. -/
structure Traced (α : Type) where
  events : List LoadEvent
  outcome : Except LoadError α

namespace Traced

variable {α β : Type}

/-- A value without events. -/
def value (a : α) : Traced α :=
  ⟨[], .ok a⟩

/-- An error without events. -/
def fail (error : LoadError) : Traced α :=
  ⟨[], .error error⟩

/-- Goes on with a value, unless there was an error. -/
def andThen (first : Traced α) (next : α → Traced β) : Traced β :=
  match first.outcome with
  | .ok a =>
    let second := next a
    ⟨first.events ++ second.events, second.outcome⟩
  | .error error => ⟨first.events, .error error⟩

instance : Monad Traced where
  pure := value
  bind := andThen

/-- A value or an error of one part of the program. -/
def lift {ε : Type} (wrap : ε → LoadError) : Except ε α → Traced α
  | .ok a => value a
  | .error error => fail (wrap error)

/-- An event. -/
def emit (event : LoadEvent) : Traced Unit :=
  ⟨[event], .ok ()⟩

/-- Several events. -/
def emitAll (events : List LoadEvent) : Traced Unit :=
  ⟨events, .ok ()⟩

end Traced

end ProgramImage
