import ProgramImage.Command.Usage

/-!
# The command line program

The program reads the file that its arguments name, and leaves the rest to
`Command.runArguments`.
-/

namespace ProgramImage

/-- Why a file cannot be read. -/
def ioReason (error : IO.Error) : String :=
  match error with
  | .noFileOrDirectory _ code details | .permissionDenied (some _) code details
  | .inappropriateType (some _) code details =>
    details ++ " (os error " ++ toString code ++ ")"
  | error => toString error

/-- The content of a file, or the reason why it cannot be read. -/
def readContent (file : String) : IO (Except String (List UInt8)) := do
  match ← (IO.FS.readBinFile file).toBaseIO with
  | .ok bytes => return .ok bytes.toList
  | .error error => return .error (ioReason error)

end ProgramImage

open ProgramImage

/-- Runs the program. -/
def main (arguments : List String) : IO UInt32 := do
  let output ← Command.runArguments readContent arguments
  let stdout ← IO.getStdout
  let stderr ← IO.getStderr
  stdout.putStr output.stdout
  stderr.putStr output.stderr
  return UInt32.ofNat output.code
