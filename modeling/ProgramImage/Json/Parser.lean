import ProgramImage.Json.NumberToken
import ProgramImage.Json.StringToken

/-!
# Reading JSON text

`Node.parse` reads the first value of a text and tells what follows it. There are no
comments, no commas before a closing bracket, and no blanks but the space, the tab
and the two line breaks. The text may be any bytes.
-/

namespace ProgramImage

namespace Node

/-- Whether a byte is a blank between tokens. -/
def isBlank (byte : UInt8) : Bool :=
  byte = 32 || byte = 9 || byte = 10 || byte = 13

/-- Drops the blanks in front. -/
def skipBlanks (bytes : List UInt8) : List UInt8 :=
  bytes.dropWhile isBlank

/-- A tree and the bytes behind it, which are absent when the text breaks off. -/
abbrev Parsed := Node × Option (List UInt8)

/-- Reads the rest of a word of the language. -/
def readWord (value : Node) : List Char → List UInt8 → Parsed
  | [], rest => (value, some rest)
  | _ :: _, [] => (broken (.always .unfinished), none)
  | c :: word, byte :: rest =>
    if byte = c.toUInt8 then readWord value word rest else (broken (.always .malformed), none)

/-- Reads a string after its opening mark. -/
def readString (bytes : List UInt8) : Parsed :=
  let token := StringToken.read bytes
  match token.rest with
  | .ok rest => (string token.text, some rest)
  | .error fault => (broken (token.break_ fault), none)

/-- Reads a number. -/
def readNumber (bytes : List UInt8) : Parsed :=
  match NumberToken.read bytes with
  | .ok (value, rest) => (number value, some rest)
  | .error stop => (broken stop, none)

/-- What follows an item or a member: a further one, the end of the container, or a
    break. -/
inductive Continuation where
  | more (rest : List UInt8)
  | closed (rest : List UInt8)
  | stopped (fault : Fault)

/-- Reads what follows an item or a member of a container that `close` ends. -/
def continuation (close : Char) (bytes : List UInt8) : Continuation :=
  match skipBlanks bytes with
  | [] => .stopped .unfinished
  | byte :: rest =>
    if byte = ','.toUInt8 then .more (skipBlanks rest)
    else if byte = close.toUInt8 then .closed rest
    else .stopped .malformed

/-- The items of an array, the break before its end, and the bytes behind it. -/
abbrev ParsedItems := List Node × Option Break × Option (List UInt8)

/-- The members of an object, the break before its end, and the bytes behind it. -/
abbrev ParsedMembers := Members × Option Break × Option (List UInt8)

/-- The end of a container at a break. -/
def stopAt (stop : Break) : Option Break × Option (List UInt8) :=
  (some stop, none)

mutual

/-- Reads a value, where `fuel` bounds the length of the text. -/
def readValue : Nat → List UInt8 → Parsed
  | 0, _ => (broken (.always .malformed), none)
  | fuel + 1, bytes =>
    match skipBlanks bytes with
    | [] => (broken (.always .unfinished), none)
    | byte :: rest =>
      if byte = '"'.toUInt8 then readString rest
      else if byte = '['.toUInt8 then
        match skipBlanks rest with
        | [] => (array [] (some (.always .unfinished)), none)
        | byte :: rest' =>
          if byte = ']'.toUInt8 then (array [] none, some rest')
          else
            let (items, stop, rest) := readItems fuel rest
            (array items stop, rest)
      else if byte = '\x7b'.toUInt8 then
        match skipBlanks rest with
        | [] => (object [] (some (.always .unfinished)), none)
        | byte :: rest' =>
          if byte = '\x7d'.toUInt8 then (object [] none, some rest')
          else
            let (members, stop, rest) := readMembers fuel (byte :: rest')
            (object members stop, rest)
      else if byte = 'n'.toUInt8 then readWord null ['u', 'l', 'l'] rest
      else if byte = 't'.toUInt8 then readWord (bool true) ['r', 'u', 'e'] rest
      else if byte = 'f'.toUInt8 then readWord (bool false) ['a', 'l', 's', 'e'] rest
      else if byte = '-'.toUInt8 || NumberToken.isDigit byte then readNumber (byte :: rest)
      else (broken (.always .malformed), none)

/-- Reads the items of an array from the first byte of one. A text that ends after a
    comma has a further item, which breaks off. -/
def readItems : Nat → List UInt8 → ParsedItems
  | 0, _ => ([], stopAt (.always .malformed))
  | fuel + 1, bytes =>
    let (item, rest?) := readValue fuel bytes
    match rest? with
    | none => ([item], stopAt (.always .malformed))
    | some rest =>
      match continuation ']' rest with
      | .closed rest => ([item], none, some rest)
      | .stopped fault => ([item], stopAt (.always fault))
      | .more [] => ([item, broken (.always .unfinished)], stopAt (.always .unfinished))
      | .more (byte :: rest) =>
        if byte = ']'.toUInt8 then ([item], stopAt (.always .malformed))
        else
          let (items, ends) := readItems fuel (byte :: rest)
          (item :: items, ends)

/-- Reads the members of an object from the first byte of one. -/
def readMembers : Nat → List UInt8 → ParsedMembers
  | 0, _ => ([], stopAt (.always .malformed))
  | fuel + 1, bytes =>
    match bytes with
    | [] => ([], stopAt (.always .unfinished))
    | byte :: rest =>
      if byte ≠ '"'.toUInt8 then ([], stopAt (.always .malformed))
      else
        let key := StringToken.read rest
        match key.rest with
        | .error fault => ([], stopAt (key.break_ fault))
        | .ok rest =>
          let (value, rest?) :=
            match skipBlanks rest with
            | [] => (broken (.always .unfinished), none)
            | byte :: rest =>
              if byte = ':'.toUInt8 then readValue fuel rest
              else (broken (.always .malformed), none)
          match rest? with
          | none => ([(key.text, value)], stopAt (.always .malformed))
          | some rest =>
            match continuation '\x7d' rest with
            | .closed rest => ([(key.text, value)], none, some rest)
            | .stopped fault => ([(key.text, value)], stopAt (.always fault))
            | .more rest =>
              let (members, ends) := readMembers fuel rest
              ((key.text, value) :: members, ends)

end

/-- The tree of a text and the bytes behind it. -/
def parse (bytes : List UInt8) : Parsed :=
  readValue (2 * bytes.length + 2) bytes

end Node

end ProgramImage
