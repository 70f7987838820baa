import ProgramImage.Flavors
import ProgramImage.Invoke
import ProgramImage.Memory
import ProgramImage.Names
import ProgramImage.Regexes
import ProgramImage.Sources

/-!
# Loaded programs

A program is what a document describes, with every name resolved and every literal in
place. `Program.summary` counts what there is.
-/

namespace ProgramImage

/-- A loaded program. -/
structure Program where
  names : NameRegistry
  sources : Sources
  memory : Memory
  types : TypeTable
  fields : FieldTable
  flavors : Flavors
  invokes : InvokeTable
  regexes : RegexTable

/-- The counts of a program. -/
structure ProgramSummary where
  typeIds : Nat
  /-- The types that have a descriptor. -/
  descriptors : Nat
  fields : Nat
  invokes : Nat
  listFlavors : Nat
  mapFlavors : Nat
  regexes : Nat
  validators : Nat
  globalBytes : Nat
  heapObjects : Nat
  sources : Nat
  deriving DecidableEq, Repr

def ProgramSummary.text (summary : ProgramSummary) : String :=
  String.intercalate "\n"
    ["types:        " ++ toString summary.descriptors ++ " (" ++ toString summary.typeIds ++
      " ids)",
     "fields:       " ++ toString summary.fields,
     "invokes:      " ++ toString summary.invokes,
     "flavors:      " ++ toString summary.listFlavors ++ " list, " ++
      toString summary.mapFlavors ++ " map",
     "regexes:      " ++ toString summary.regexes ++ " (" ++ toString summary.validators ++
      " validators)",
     "globals:      " ++ toString summary.globalBytes ++ " bytes",
     "heap objects: " ++ toString summary.heapObjects,
     "sources:      " ++ toString summary.sources]

namespace Program

/-- The descriptor of a type by its name. -/
def typeByName? (program : Program) (name : String) : Option TypeDescriptor :=
  (program.names.lookup .type name).bind program.types.type?

/-- The name of a type for reports: that of its descriptor, else the name that is
    numbered, else the number. -/
def displayType (program : Program) (tid : TypeId) : String :=
  match program.types.type? tid with
  | some desc => desc.name
  | none => (program.names.resolve tid).getD tid.text

/-- The objects that the global buffer refers to. -/
def globalRoots (program : Program) : List ObjectRef :=
  program.memory.globalRoots

/-- The counts of a program. -/
def summary (program : Program) : ProgramSummary where
  typeIds := program.types.size
  descriptors := program.types.populated
  fields := program.names.count .field
  invokes := program.invokes.size
  listFlavors := program.flavors.lists.length
  mapFlavors := program.flavors.maps.length
  regexes := program.regexes.size
  validators := program.regexes.validatorCount
  globalBytes := program.memory.globals.size
  heapObjects := program.memory.heap.count
  sources := program.sources.size

end Program

end ProgramImage
