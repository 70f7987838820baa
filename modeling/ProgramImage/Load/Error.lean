import ProgramImage.Constant
import ProgramImage.Flavors
import ProgramImage.Json.Reader
import ProgramImage.Literal
import ProgramImage.Names

/-!
# Why a document does not load

A load stops at the first error. An error that belongs to one part of the program, such
as its heap or its literals, is carried as it is.
-/

namespace ProgramImage

/-- What is wrong with a declaration in itself. -/
inductive DeclarationFault where
  /-- The fields of a layout and their offsets are not equally many. -/
  | offsetCount (fields offsets : Nat)
  /-- A chunk holds neither four nor eight entries. -/
  | chunkCapacity (capacity : Nat)
  /-- The chunk of a flavor has another capacity than its place asks for. -/
  | flavorCapacity (chunk : String) (found expected : Nat)
  deriving DecidableEq, Repr

def DeclarationFault.message : DeclarationFault → String
  | offsetCount fields offsets =>
    toString fields ++ " fields but " ++ toString offsets ++ " field offsets"
  | chunkCapacity capacity =>
    "partial vector capacity " ++ toString capacity ++ " is not 4 or 8"
  | flavorCapacity chunk found expected =>
    chunk ++ " has capacity " ++ toString found ++ ", expected " ++ toString expected

/-- How many bytes a mask should describe. -/
inductive Coverage where
  | exactly (bytes : Nat)
  | atMost (bytes : Nat)
  deriving DecidableEq, Repr

def Coverage.text : Coverage → String
  | exactly bytes => toString bytes
  | atMost bytes => "at most " ++ toString bytes

/-- Whether a mask describes as many bytes as it should. -/
def Coverage.admits : Coverage → Mask → Bool
  | exactly bytes, mask => mask.covered == bytes
  | atMost bytes, mask => mask.covered ≤ bytes

/-- Why a document does not load. A context names the declaration, or the list of
    declarations, in which the error was found. -/
inductive LoadError where
  /-- The text is no document. -/
  | parse (error : ReadError)
  | globalBufferTooLarge (size max : Nat)
  /-- A name that is not numbered. -/
  | unknownName (space : Namespace) (name context : String)
  /-- A type that is not loaded yet. -/
  | missingDescriptor (name context : String)
  | wrongKind (name context expected found : String)
  | invalidDeclaration (name : String) (fault : DeclarationFault)
  | invalidMask (context : String) (error : MaskError)
  | maskCoverage (context : String) (covered : Nat) (expected : Coverage)
  | names (error : NameError)
  | table (error : TableError)
  | heap (error : HeapError)
  | flavor (error : FlavorError)
  | regex (error : RegexError)
  | literal (offset : Nat) (type : String) (error : LiteralError)
  | constant (offset : Nat) (error : ConstantError)
  deriving DecidableEq, Repr

namespace LoadError

def message : LoadError → String
  | parse error => "malformed assembly document: " ++ error.message
  | globalBufferTooLarge size max =>
    "global buffer of " ++ toString size ++ " bytes exceeds the limit of " ++ toString max ++
      " bytes"
  | unknownName space name context =>
    "unknown " ++ space.label ++ " name " ++ Text.quote name ++ " in " ++ context
  | missingDescriptor name context =>
    "type " ++ Text.quote name ++ " referenced in " ++ context ++ " has no loaded descriptor"
  | wrongKind name context expected found =>
    "type " ++ Text.quote name ++ " referenced in " ++ context ++ " is " ++ found ++
      ", expected " ++ expected
  | invalidDeclaration name fault =>
    "invalid declaration of " ++ Text.quote name ++ ": " ++ fault.message
  | invalidMask context error => "invalid mask in " ++ context ++ ": " ++ error.message
  | maskCoverage context covered expected =>
    "mask in " ++ context ++ " covers " ++ toString covered ++ " bytes, expected " ++
      expected.text
  | names error => error.message
  | table error => error.message
  | heap error => error.message
  | flavor error => error.message
  | regex error => error.message
  | literal offset type error =>
    "literal at offset " ++ toString offset ++ " (" ++ type ++ "): " ++ error.message
  | constant offset error => "constant at offset " ++ toString offset ++ ": " ++ error.message

/-- The errors behind an error, the nearest first. -/
def causes : LoadError → List String
  | invalidMask _ error => [error.message]
  | literal _ _ error => [error.message]
  | constant _ error => [error.message]
  | regex (.invalidPattern _ fault) => [fault]
  | _ => []

end LoadError

end ProgramImage
