/-!
# Settings of a load

The settings limit what a document may ask for and choose what is checked and kept.
-/

namespace ProgramImage

/-- The settings of a load. -/
structure LoadConfig where
  /-- The largest global buffer in bytes. -/
  maxGlobalBytes : Nat
  /-- Whether masks have to fit the sizes they are declared with. -/
  verifyMasks : Bool
  /-- Whether source texts are kept. -/
  keepSources : Bool
  /-- The most bytes of heap objects; zero for no limit. -/
  maxHeapBytes : Nat
  deriving DecidableEq, Repr

/-- The settings that hold unless others are given. -/
def LoadConfig.standard : LoadConfig where
  maxGlobalBytes := 64 * 1024 * 1024
  verifyMasks := true
  keepSources := true
  maxHeapBytes := 0

end ProgramImage
