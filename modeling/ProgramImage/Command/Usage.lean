import ProgramImage.Command.Report

/-!
# Usage of the program

Arguments that are no command are answered with a text of their own: help and the
version on standard output, and a reminder of the usage on standard error.
-/

namespace ProgramImage

namespace Command

/-- How the program is called, and what its version is. -/
def versionText : String := "sylva 0.2.0\n"

/-- How the commands are called. -/
def usageText : String :=
  String.intercalate "\n"
    ["Usage: [OPTIONS] <COMMAND>",
     "",
     "Commands:",
     "  check <FILE>    Load an assembly and report what it contains",
     "  types <FILE>    Print the type table of an assembly",
     "  header <VALUE>  Decode a raw 64-bit GC header word",
     "",
     "Options of check and types:",
     "  --no-verify-masks            Skip mask coverage checks",
     "  --no-sources                 Drop source texts after loading",
     "  --max-global-buffer <BYTES>  Largest accepted global buffer in bytes",
     "",
     "Options of types:",
     "  --all   Also list interned names that have no descriptor",
     "  --json  Emit JSON instead of a table",
     "",
     "Options:",
     "  -v, --verbose  Log loader phases",
     "  -h, --help     Print help",
     "  -V, --version  Print version",
     ""]

end Command

/-- What is printed for arguments that are no command. -/
def ArgumentStop.output : ArgumentStop → CommandOutput
  | help => ⟨0, Command.usageText, ""⟩
  | version => ⟨0, Command.versionText, ""⟩
  | usage => ⟨2, "", Command.usageText⟩

namespace Command

/-- Runs the command of the given arguments, where `content` gives the content of a
    file, or the reason why it cannot be read. -/
def runArguments {m : Type → Type} [Monad m]
    (content : String → m (Except String (List UInt8))) (arguments : List String) :
    m CommandOutput :=
  match parse arguments with
  | .error stop => pure stop.output
  | .ok command => do
    let content ← match command.file? with
      | some file => content file
      | none => pure (.ok [])
    return command.run content

end Command

end ProgramImage
