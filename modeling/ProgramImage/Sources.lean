import ProgramImage.Keyed
import ProgramImage.Text.Lines

/-!
# Source texts

The source files of a program are kept for diagnostics, in the order of their names.
-/

namespace ProgramImage

/-- Source texts by file name. -/
structure Sources where
  files : List (String × String)
  deriving DecidableEq, Repr

namespace Sources

def empty : Sources := ⟨[]⟩

/-- Keeps the text of a file, in place of an earlier text of the same file. -/
def insert (sources : Sources) (file contents : String) : Sources :=
  ⟨Keyed.insert file contents sources.files⟩

def get? (sources : Sources) (file : String) : Option String :=
  Keyed.get? file sources.files

/-- A line of a file. The first line is number one. -/
def line? (sources : Sources) (file : String) : Nat → Option String
  | 0 => none
  | number + 1 => (sources.get? file).bind fun text => (Text.lines text)[number]?

def size (sources : Sources) : Nat :=
  sources.files.length

/-- The file names, in order. -/
def names (sources : Sources) : List String :=
  sources.files.map fun file => file.1

end Sources

end ProgramImage
