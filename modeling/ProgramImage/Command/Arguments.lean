import ProgramImage.Number.Digits

/-!
# Command line arguments

The first argument that is no flag chooses a command, which has one argument of its own
and flags of its own. A flag may be given once. After two hyphens alone everything is an
argument, and a single hyphen is an argument as well.
-/

namespace ProgramImage

/-- The arguments of the commands that load a file. -/
structure LoadArguments where
  file : String
  /-- Whether masks are taken as they are. -/
  skipsMasks : Bool
  /-- Whether source texts are dropped. -/
  dropsSources : Bool
  /-- The largest global buffer in bytes, unless the standard one is meant. -/
  maxGlobalBytes : Option Nat
  deriving DecidableEq, Repr

/-- What the command line asks for. -/
inductive Command where
  /-- Load a file and tell what it contains. -/
  | check (load : LoadArguments)
  /-- Print the table of types. -/
  | types (load : LoadArguments) (listsUndeclared asJson : Bool)
  /-- Take a header word apart. -/
  | header (word : String)
  deriving DecidableEq, Repr

/-- Why arguments are no command. -/
inductive ArgumentStop where
  /-- Help is asked for. -/
  | help
  /-- The version is asked for. -/
  | version
  /-- The arguments do not fit. -/
  | usage
  deriving DecidableEq, Repr

namespace Command

/-- What a command takes. Flags are named without their hyphens. -/
structure Signature where
  /-- Flags that stand alone. -/
  switches : List String
  /-- Flags that a number follows. -/
  numbers : List String
  /-- Whether its one argument may be the empty text. -/
  acceptsEmpty : Bool

/-- Arguments sorted by what they are. -/
structure Scanned where
  switches : List String
  numbers : List (String × Nat)
  positionals : List String
  deriving DecidableEq, Repr

namespace Scanned

def empty : Scanned := ⟨[], [], []⟩

/-- Takes a flag that stands alone. -/
def addSwitch (scanned : Scanned) (name : String) : Except ArgumentStop Scanned :=
  if scanned.switches.contains name then .error .usage
  else .ok { scanned with switches := name :: scanned.switches }

/-- Takes a flag with the text of its number. -/
def addNumber (scanned : Scanned) (name text : String) : Except ArgumentStop Scanned :=
  if (scanned.numbers.lookup name).isSome then .error .usage
  else match Digits.nat 10 max64 text.toList with
    | .ok n => .ok { scanned with numbers := (name, n) :: scanned.numbers }
    | .error _ => .error .usage

/-- Takes an argument that is no flag, of which there is one. -/
def addPositional (signature : Signature) (scanned : Scanned) (text : String) :
    Except ArgumentStop Scanned :=
  if scanned.positionals.isEmpty && (signature.acceptsEmpty || !text.isEmpty) then
    .ok { scanned with positionals := [text] }
  else .error .usage

/-- Takes letters behind one hyphen, which ask for the version only in front of the name
    of a command. -/
def addLetters (inFront : Bool) (scanned : Scanned) :
    List Char → Except ArgumentStop Scanned
  | [] => .ok scanned
  | 'h' :: _ => .error .help
  | 'V' :: _ => .error (if inFront then .version else .usage)
  | 'v' :: rest => do (← scanned.addSwitch "verbose").addLetters inFront rest
  | _ => .error .usage

/-- The one argument that is no flag. -/
def positional (scanned : Scanned) : Except ArgumentStop String :=
  match scanned.positionals with
  | [text] => .ok text
  | _ => .error .usage

end Scanned

/-- Whether an argument is a flag. -/
def isFlag (text : List Char) : Bool :=
  match text with
  | '-' :: _ :: _ => true
  | _ => false

/-- A long flag: its name, and what stands behind an equals sign. -/
def splitFlag (text : List Char) : String × Option String :=
  let name := String.ofList (text.takeWhile (· != '='))
  match text.dropWhile (· != '=') with
  | [] => (name, none)
  | _ :: value => (name, some (String.ofList value))

/-- Sorts the arguments of a command. -/
def scan (signature : Signature) (scanned : Scanned) : List String → Except ArgumentStop Scanned
  | [] => .ok scanned
  | text :: rest =>
    match text.toList with
    | ['-', '-'] => rest.foldlM (Scanned.addPositional signature) scanned
    | '-' :: '-' :: flag =>
      let (name, value?) := splitFlag flag
      if name = "help" then .error (if value?.isNone then .help else .usage)
      else if signature.switches.contains name then
        match value? with
        | none => do scan signature (← scanned.addSwitch name) rest
        | some _ => .error .usage
      else if signature.numbers.contains name then
        match value?, rest with
        | some value, rest => do scan signature (← scanned.addNumber name value) rest
        | none, value :: rest =>
          if isFlag value.toList then .error .usage
          else do scan signature (← scanned.addNumber name value) rest
        | none, [] => .error .usage
      else .error .usage
    | '-' :: c :: letters => do scan signature (← scanned.addLetters false (c :: letters)) rest
    | _ => do scan signature (← scanned.addPositional signature text) rest

/-- What the commands that load a file have in common. -/
def loadSignature : Signature where
  switches := ["verbose", "no-verify-masks", "no-sources"]
  numbers := ["max-global-buffer"]
  acceptsEmpty := false

/-- The arguments of a command that loads a file. -/
def loadArguments (scanned : Scanned) : Except ArgumentStop LoadArguments :=
  scanned.positional.map fun file =>
    { file
      skipsMasks := scanned.switches.contains "no-verify-masks"
      dropsSources := scanned.switches.contains "no-sources"
      maxGlobalBytes := scanned.numbers.lookup "max-global-buffer" }

/-- Reads the arguments behind the name of a command. -/
def ofName (name : String) (arguments : List String) : Except ArgumentStop Command := do
  match name with
  | "check" =>
    let scanned ← scan loadSignature .empty arguments
    return check (← loadArguments scanned)
  | "types" =>
    let signature :=
      { loadSignature with switches := loadSignature.switches ++ ["all", "json"] }
    let scanned ← scan signature .empty arguments
    return types (← loadArguments scanned) (scanned.switches.contains "all")
      (scanned.switches.contains "json")
  | "header" =>
    let scanned ← scan ⟨["verbose"], [], true⟩ .empty arguments
    return header (← scanned.positional)
  | "help" =>
    match arguments with
    | [] | ["check"] | ["types"] | ["header"] | ["help"] => throw .help
    | _ => throw .usage
  | _ => throw .usage

/-- Reads the arguments in front of the name of a command, and the command. -/
def parseFrom (scanned : Scanned) : List String → Except ArgumentStop Command
  | [] => .error .usage
  | text :: rest =>
    if isFlag text.toList then
      match text with
      | "--help" => .error .help
      | "--version" => .error .version
      | "--verbose" => do parseFrom (← scanned.addSwitch "verbose") rest
      | "--" => .error .usage
      | _ =>
        match text.toList with
        | '-' :: '-' :: _ => .error .usage
        | _ => do parseFrom (← scanned.addLetters true (text.toList.drop 1)) rest
    else ofName text rest

/-- Reads the arguments of the command line. -/
def parse (arguments : List String) : Except ArgumentStop Command :=
  parseFrom .empty arguments

end Command

end ProgramImage
