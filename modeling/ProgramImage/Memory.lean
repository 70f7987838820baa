import ProgramImage.GlobalStore

/-!
# Memory of a program

The memory of a program is its global buffer together with its heap. Literals and
constants are stored in it while the program is loaded.
-/

namespace ProgramImage

/-- The global buffer and the heap. -/
structure Memory where
  globals : GlobalStore
  heap : Heap

namespace Memory

/-- The objects that the global buffer refers to. -/
def globalRoots (memory : Memory) : List ObjectRef :=
  memory.heap.globalRoots memory.globals.bytes

/-- Writes bytes to the global buffer, or leaves the memory as it is. -/
def write (memory : Memory) (offset : Nat) (content : List UInt8) :
    Except GlobalError Unit × Memory :=
  match memory.globals.checkRange offset content.length with
  | .ok () => (.ok (), { memory with globals := memory.globals.overwrite offset content })
  | .error error => (.error error, memory)

end Memory

end ProgramImage
