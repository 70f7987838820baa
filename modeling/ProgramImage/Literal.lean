import ProgramImage.Memory
import ProgramImage.Number.Digits
import ProgramImage.Number.DoubleText
import ProgramImage.Regexes
import ProgramImage.Text.Utf8

/-!
# Literals

A literal is a text with a type. Numbers end in one character that tells their type
and is not looked at, strings stand between quotation marks, and regular expressions
are found by their text. `Literal.parse` finds the value of a literal, and
`Literal.store` puts a value into the global buffer, where a long string takes an
object of the heap.
-/

namespace ProgramImage

/-- The numeric types with literals. -/
inductive NumericKind where
  | nat
  | int
  | bigNat
  | bigInt
  | float
  | decimal
  deriving DecidableEq, Repr

def NumericKind.name : NumericKind → String
  | nat => "Nat"
  | int => "Int"
  | bigNat => "BigNat"
  | bigInt => "BigInt"
  | float => "Float"
  | decimal => "Decimal"

/-- Why a literal cannot be stored. -/
inductive LiteralError where
  /-- The type has no literals. -/
  | notLiteralType (tid : TypeId)
  | rationalUnsupported (text : String)
  | invalidNumber (kind : NumericKind) (text : String)
  | unquotedString (text : String)
  | stringTooLong (length max : Nat)
  /-- No regular expression has the text. -/
  | unknownRegex (text : String)
  /-- The type of a string buffer is not loaded. -/
  | missingRepr (tid : TypeId)
  | global (error : GlobalError)
  | heap (error : HeapError)
  deriving DecidableEq, Repr

def LiteralError.message : LiteralError → String
  | notLiteralType tid => "type " ++ tid.text ++ " has no literal form"
  | rationalUnsupported text => "rational literal " ++ Text.quote text ++ " is not supported"
  | invalidNumber kind text => "invalid " ++ kind.name ++ " literal " ++ Text.quote text
  | unquotedString text => "string literal " ++ Text.quote text ++ " is not quoted"
  | stringTooLong length max =>
    "string literal of " ++ toString length ++ " bytes exceeds the " ++ toString max ++
      "-byte limit"
  | unknownRegex text => "unknown regex literal " ++ Text.quote text
  | missingRepr tid => "missing descriptor for string representation " ++ tid.text
  | global error => error.message
  | heap error => error.message

/-- The value of a literal. -/
inductive Literal where
  /-- The value of a type that has one value only. -/
  | unit
  | bool (value : Bool)
  | nat (value : Nat)
  | int (value : Int)
  | bigNat (value : Nat)
  | bigInt (value : Int)
  | float (value : Double)
  /-- A text without its quotation marks. -/
  | string (value : String)
  | regex (id : RegexId)
  deriving DecidableEq, Repr

namespace Literal

def text : Literal → String
  | unit => "none"
  | bool value => toString value
  | nat value | bigNat value => toString value
  | int value | bigInt value => toString value
  | float value => value.text
  | string value => Text.quote value
  | regex id => "regex" ++ id.text

/-- Reads a number in front of the character that tells its type. -/
def number {α : Type} (kind : NumericKind) (text : String) (read : List Char → Option α) :
    Except LiteralError α :=
  match read text.toList.dropLast with
  | some value => .ok value
  | none => .error (.invalidNumber kind text)

/-- The text between two quotation marks. -/
def unquote? : List Char → Option (List Char)
  | '"' :: rest => if rest.getLast? = some '"' then some rest.dropLast else none
  | _ => none

/-- Reads a string literal. -/
def parseString (text : String) : Except LiteralError Literal :=
  match unquote? text.toList with
  | none => .error (.unquotedString text)
  | some content =>
    let length := (Utf8.encode content).length
    if length > maxBufferString then .error (.stringTooLong length maxBufferString)
    else .ok (string (String.ofList content))

/-- The value of a literal of a type. -/
def parse (regexes : RegexTable) (tid : TypeId) (text : String) :
    Except LiteralError Literal :=
  if tid = .none || tid = .nothing then .ok unit
  else if tid = .bool then .ok (bool (text == "true"))
  else if tid = .nat then
    (number .nat text fun digits => (Digits.nat 10 max64 digits).toOption).map nat
  else if tid = .int then
    (number .int text fun digits => (Digits.int 10 (max64 / 2) digits).toOption).map int
  else if tid = .bigNat then
    (number .bigNat text fun digits => (Digits.nat 10 max128 digits).toOption).map bigNat
  else if tid = .bigInt then
    (number .bigInt text fun digits => (Digits.int 10 (max128 / 2) digits).toOption).map bigInt
  else if tid = .float then (number .float text Double.ofText?).map float
  else if tid = .decimal then (number .decimal text Double.ofText?).map float
  else if tid = .rational then .error (.rationalUnsupported text)
  else if tid = .string then parseString text
  else if tid = .regex then
    match regexes.lookup text with
    | some id => .ok (regex id)
    | none => .error (.unknownRegex text)
  else .error (.notLiteralType tid)

/-- The slot of a string, and the heap with the object that holds a long string. -/
def stringSlot (types : TypeTable) (heap : Heap) (content : List UInt8) :
    Except LiteralError (StringSlot × Heap) :=
  if content.isEmpty then .ok (.empty, heap)
  else match StringSlot.ofShort? content with
    | some slot => .ok (slot, heap)
    | none =>
      match stringBufferFor? content.length with
      | none => .error (.stringTooLong content.length maxBufferString)
      | some (tid, _) =>
        match types.type? tid with
        | none => .error (.missingRepr tid)
        | some desc =>
          match heap.allocate desc content with
          | .ok (obj, heap) => .ok (.heap obj content.length, heap)
          | .error error => .error (.heap error)

/-- The bytes of a value in the global buffer, and the heap with the object that they
    may refer to. -/
def encode (types : TypeTable) (heap : Heap) :
    Literal → Except LiteralError (List UInt8 × Heap)
  | unit => .ok ([], heap)
  | bool value => .ok ([if value then 1 else 0], heap)
  | nat value => .ok (LittleEndian.encode 8 value, heap)
  | int value => .ok (LittleEndian.encodeInt 8 value, heap)
  | bigNat value => .ok (LittleEndian.encode 16 value, heap)
  | bigInt value => .ok (LittleEndian.encodeInt 16 value, heap)
  | float value => .ok (LittleEndian.encode 8 value.bits.toNat, heap)
  | regex id => .ok (LittleEndian.encode 8 id.value, heap)
  | string value =>
    (stringSlot types heap (Utf8.encode value.toList)).map fun (slot, heap) =>
      (slot.encode, heap)

/-- Stores a value at an offset of the global buffer. The object of a long string is
    allocated first, and stays when the buffer does not reach as far as the slot. -/
def store (types : TypeTable) (memory : Memory) (offset : Nat) (value : Literal) :
    Except LiteralError Unit × Memory :=
  match value with
  | unit => (.ok (), memory)
  | value =>
    match value.encode types memory.heap with
    | .error error => (.error error, memory)
    | .ok (bytes, heap) =>
      let (result, memory) := { memory with heap }.write offset bytes
      (result.mapError .global, memory)

/-- Finds the value of a literal and stores it. -/
def place (types : TypeTable) (regexes : RegexTable) (memory : Memory) (offset : Nat)
    (tid : TypeId) (text : String) : Except LiteralError Literal × Memory :=
  match parse regexes tid text with
  | .error error => (.error error, memory)
  | .ok value =>
    let (result, memory) := value.store types memory offset
    (result.map fun _ => value, memory)

end Literal

end ProgramImage
