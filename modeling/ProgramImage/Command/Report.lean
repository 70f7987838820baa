import ProgramImage.Checkpoint
import ProgramImage.Command.Arguments
import ProgramImage.ImageFile
import ProgramImage.Json.Printer
import ProgramImage.Pattern.Language
import ProgramImage.Text.Column

/-!
# What the commands print

A command gives a text for standard output, one for standard error, and an exit code.
A command that fails outside the checkpoint exits with one, and prints the error with
the errors behind it.
-/

namespace ProgramImage

/-- The options of a load for the command line, which computes no constants. -/
def LoadArguments.options (arguments : LoadArguments) : FileOptions where
  config :=
    { LoadConfig.standard with
      verifyMasks := !arguments.skipsMasks
      keepSources := !arguments.dropsSources
      maxGlobalBytes := arguments.maxGlobalBytes.getD LoadConfig.standard.maxGlobalBytes }
  defer := true

/-- What a command prints, and the code that the process exits with. -/
structure CommandOutput where
  code : Nat
  stdout : String
  stderr : String
  deriving DecidableEq, Repr

namespace CommandOutput

/-- Lines for standard output. -/
def ofLines (lines : List String) : CommandOutput :=
  ⟨0, String.join (lines.map (· ++ "\n")), ""⟩

/-- A text of which every line but the first starts with a margin. -/
def hanging (margin text : String) : String :=
  String.intercalate ("\n" ++ margin) (text.splitOn "\n")

/-- The errors behind an error, which are numbered when there are several. -/
def causeLines : List String → List String
  | [cause] => ["    " ++ hanging "    " cause]
  | causes => causes.zipIdx.map fun (cause, number) =>
      Text.padLeft 5 (toString number) ++ ": " ++ hanging "       " cause

/-- An error and the errors behind it. -/
def failure (message : String) (causes : List String) : CommandOutput :=
  let heading := "Error: " ++ message
  let lines := if causes.isEmpty then [heading]
    else [heading, "", "Caused by:"] ++ causeLines causes
  ⟨1, "", String.join (lines.map (· ++ "\n"))⟩

end CommandOutput

namespace Command

open CommandOutput

/-- The line for a constant that was not computed. -/
def pendingLine (program : Program) (constant : PendingConstant) : String :=
  "  @" ++ Text.padRight 6 (toString constant.offset) ++ " " ++
    (program.names.resolve constant.invoke).getD "?" ++ " : " ++
    program.displayType constant.type

/-- Tells what a file contains. -/
def checkReport (file : String) : Checkpoint LoadedFile → CommandOutput
  | .completed loaded =>
    let pending := loaded.pending
    ofLines <| [file ++ ": ok", loaded.program.summary.text] ++
      if pending.isEmpty then []
      else ("deferred constants: " ++ toString pending.length) ::
        pending.map (pendingLine loaded.program)
  | .trapped kind message => ⟨kind.code, "", file ++ ": " ++ message ++ "\n"⟩

/-- A row of the table of types. -/
structure TypeRow where
  tid : String
  kind : String
  inlineSize : String
  assignSize : String
  heapSize : String
  inlineMask : String
  heapMask : String
  name : String

def TypeRow.text (row : TypeRow) : String :=
  Text.padLeft 6 row.tid ++ "  " ++ Text.padRight 14 row.kind ++ " " ++
    Text.padLeft 6 row.inlineSize ++ " " ++ Text.padLeft 6 row.assignSize ++ " " ++
    Text.padLeft 6 row.heapSize ++ "  " ++ Text.padRight 8 row.inlineMask ++ " " ++
    Text.padRight 8 row.heapMask ++ "  " ++ row.name

/-- The heading of the table of types. -/
def TypeRow.heading : TypeRow :=
  ⟨"tid", "kind", "inline", "assign", "heap", "imask", "hmask", "name"⟩

/-- The row of a type. -/
def TypeRow.ofDescriptor (desc : TypeDescriptor) : TypeRow where
  tid := toString desc.tid.value
  kind := desc.kind.name
  inlineSize := toString desc.size.inlineSize
  assignSize := toString desc.size.assignSize
  heapSize := toString desc.size.heapSize
  inlineMask := desc.size.inlineMask.text
  heapMask := (desc.size.heapMask.map Mask.text).getD "-"
  name := desc.name

/-- The row of a type that has a name only. -/
def TypeRow.ofUndeclared (program : Program) (tid : TypeId) : TypeRow :=
  ⟨toString tid.value, "(undeclared)", "-", "-", "-", "-", "-", program.displayType tid⟩

/-- A type in the JSON form of the table. -/
def typeJson (desc : TypeDescriptor) : Json :=
  .ofMembers
    [("tid", .ofNat desc.tid.value),
     ("name", .string desc.name),
     ("kind", .string desc.kind.name),
     ("layout", .string desc.layout.name),
     ("heapsize", .ofNat desc.size.heapSize),
     ("inlinedatasize", .ofNat desc.size.inlineSize),
     ("assigndatasize", .ofNat desc.size.assignSize),
     ("heapmask", .ofOption .string (desc.size.heapMask.map Mask.text)),
     ("inlinedmask", .string desc.size.inlineMask.text)]

/-- Prints the table of types. -/
def typesReport (listsUndeclared asJson : Bool) : Except FileError LoadedFile → CommandOutput
  | .error error => failure error.message error.causes
  | .ok loaded =>
    let program := loaded.program
    let types := program.types.toList
    let undeclared := if listsUndeclared then program.types.undeclared else []
    if asJson then
      let names := ("undeclared", Json.ofStrings (undeclared.map program.displayType))
      let table := ("types", Json.array (types.map typeJson))
      ofLines [(Json.ofMembers (if listsUndeclared then [table, names] else [table])).pretty]
    else
      let rows := TypeRow.heading :: types.map TypeRow.ofDescriptor ++
        undeclared.map (TypeRow.ofUndeclared program)
      ofLines (rows.map TypeRow.text)

/-- The text of a header word without blanks around it and without underscores. -/
def cleanWord (text : String) : List Char :=
  (Text.trim text.toList).filter (· != '_')

/-- Reads a header word in decimal, or in hexadecimal with its sign in front. -/
def readWord (text : List Char) : Except DigitError Nat :=
  match text with
  | '0' :: 'x' :: digits | '0' :: 'X' :: digits => Digits.nat 16 max64 digits
  | digits => Digits.nat 10 max64 digits

/-- The fields of a header word in lines. -/
def headerLines (word : HeaderWord) : List String :=
  ("raw:       " ++ word.hexText) ::
    if word.isForwarded then ["forwarded: yes"]
    else
      ["rc:        " ++ toString word.count,
       "marked:    " ++ toString word.marked,
       "young:     " ++ toString word.young,
       "type id:   " ++ toString word.tid.value,
       "reachable: " ++ toString word.isReachable]

/-- Takes a header word apart. -/
def headerReport (text : String) : CommandOutput :=
  let digits := cleanWord text
  match readWord digits with
  | .ok raw => ofLines (headerLines (.ofNat raw))
  | .error error =>
    failure ("invalid header word " ++ Text.quote (String.ofList digits)) [error.message]

/-- The file that a command reads. -/
def file? : Command → Option String
  | check load | types load .. => some load.file
  | header _ => none

/-- Runs a command, where `content` is the content of its file, or the reason why the
    file cannot be read. -/
def run (content : Except String (List UInt8)) : Command → CommandOutput
  | check load =>
    let report := LoadedFile.ofFile PatternLanguage.basic load.options content
    checkReport load.file (.ofExcept FileError.toTrap report.outcome)
  | types load listsUndeclared asJson =>
    typesReport listsUndeclared asJson
      (LoadedFile.ofFile PatternLanguage.basic load.options content).outcome
  | header word => headerReport word

end Command

end ProgramImage
