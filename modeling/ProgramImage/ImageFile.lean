import ProgramImage.Document.Reader
import ProgramImage.Load.Basic

/-!
# Loading files

A file is read as a document and loaded. `FileError` tells apart what can go wrong on
the way, and any such error is also a trap: a fault with the text of the error, unless
it was a trap from the start.
-/

namespace ProgramImage

/-- Why a file cannot be loaded. -/
inductive FileError where
  /-- The file cannot be read, for a reason in words. -/
  | io (reason : String)
  /-- The content is no document. -/
  | json (error : ReadError)
  | load (error : LoadError)
  | trap (raised : Trap)
  deriving DecidableEq, Repr

namespace FileError

def message : FileError → String
  | io reason => reason
  | json error => "Invalid assembly JSON: " ++ error.message
  | load error => "Load error: " ++ error.message
  | trap raised => "Trap: " ++ raised.text

/-- The errors behind an error, the nearest first. -/
def causes : FileError → List String
  | io reason => [reason]
  | json error => [error.message]
  | load error => error.message :: error.causes
  | trap raised => [raised.text]

/-- An error as a trap. -/
def toTrap : FileError → Trap
  | trap raised => raised
  | error => ⟨.fault, error.message, none⟩

end FileError

/-- How files are loaded. -/
structure FileOptions where
  config : LoadConfig
  /-- Whether constants are taken down, where otherwise each of them faults. -/
  defer : Bool
  deriving DecidableEq, Repr

/-- The options that hold unless others are given. -/
def FileOptions.standard : FileOptions := ⟨.standard, false⟩

/-- A loaded file: its program and the constants that were not computed. -/
structure LoadedFile where
  program : Program
  pending : List PendingConstant

/-- What loading a file gives. -/
structure FileReport where
  events : List LoadEvent
  outcome : Except FileError LoadedFile

namespace LoadedFile

/-- A report with the constants that were not computed. -/
def report {σ : Type} (pending : σ → List PendingConstant)
    (loaded : Load.Report σ Program) : FileReport where
  events := loaded.events
  outcome :=
    match loaded.outcome with
    | .ok program => .ok ⟨program, pending loaded.state⟩
    | .error error => .error (.load error)

/-- Loads a document. -/
def ofDocument (patterns : PatternLanguage) (options : FileOptions) (doc : Document) :
    FileReport :=
  if options.defer then report id (Load.load patterns options.config .deferring [] doc)
  else report (fun _ => []) (Load.load patterns options.config .absent () doc)

/-- Loads the content of a file. -/
def ofBytes (patterns : PatternLanguage) (options : FileOptions) (bytes : List UInt8) :
    FileReport :=
  match Document.ofBytes bytes with
  | .ok doc => ofDocument patterns options doc
  | .error error => ⟨[], .error (.json error)⟩

/-- Loads a file of which the content is known, or the reason why it cannot be read. -/
def ofFile (patterns : PatternLanguage) (options : FileOptions) :
    Except String (List UInt8) → FileReport
  | .ok bytes => ofBytes patterns options bytes
  | .error reason => ⟨[], .error (.io reason)⟩

end LoadedFile

end ProgramImage
