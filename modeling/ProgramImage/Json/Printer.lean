import ProgramImage.Json.Basic
import ProgramImage.Text.Hex

/-!
# JSON text

A value is written without blanks by `Json.compact`, and with one member or item to
a line by `Json.pretty`. Only quotation marks, backslashes and control characters
are escaped. A floating-point number always shows that it is one, by a point or an
exponent.
-/

namespace ProgramImage

namespace Json

/-- The spelling of a character in a JSON string. -/
def escapeChar (c : Char) : List Char :=
  if c = '"' then ['\\', '"']
  else if c = '\\' then ['\\', '\\']
  else if c = '\n' then ['\\', 'n']
  else if c = '\r' then ['\\', 'r']
  else if c = '\t' then ['\\', 't']
  else if c = '\x08' then ['\\', 'b']
  else if c = '\x0c' then ['\\', 'f']
  else if c.toNat < 32 then '\\' :: 'u' :: (Text.paddedHex 4 c.toNat).toList
  else [c]

/-- A text as a JSON string. -/
def quoted (text : String) : String :=
  String.ofList ('"' :: text.toList.flatMap escapeChar ++ ['"'])

/-- Digits and a power of ten as a floating-point number: positional when the point
    is near the digits, else with an exponent. -/
def scientific (digits : List Char) (p : Int) : List Char :=
  let point : Int := digits.length + p
  if 0 ≤ p && point ≤ 16 then digits ++ List.replicate p.toNat '0' ++ ['.', '0']
  else if -5 < point && point ≤ 16 then Double.positional digits p
  else
    let exponent := (toString (point - 1)).toList
    match digits with
    | [] => []
    | [digit] => digit :: 'e' :: exponent
    | digit :: rest => digit :: '.' :: rest ++ 'e' :: exponent

/-- The text of a finite floating-point number. -/
def floatText (x : Double) : String :=
  let sign := if x.negative then ['-'] else []
  if x.magnitude = 0 then String.ofList (sign ++ ['0', '.', '0'])
  else
    let (digits, p) := x.shortest
    String.ofList (sign ++ scientific (Nat.toDigits 10 digits) p)

/-- The text of a number. JSON has no text for infinities, which are written as
    null. -/
def numberText : Number → String
  | .int i => toString i
  | .float x => if x.isFinite then floatText x else "null"

mutual

/-- A value without blanks. -/
def compact : Json → String
  | null => "null"
  | bool b => toString b
  | number n => numberText n
  | string s => quoted s
  | array items => "[" ++ compactItems items ++ "]"
  | object members => "\x7b" ++ compactMembers members ++ "\x7d"

/-- The items of an array, without blanks. -/
def compactItems : List Json → String
  | [] => ""
  | [item] => item.compact
  | item :: rest => item.compact ++ "," ++ compactItems rest

/-- The members of an object, without blanks. -/
def compactMembers : List (String × Json) → String
  | [] => ""
  | [(key, value)] => quoted key ++ ":" ++ value.compact
  | (key, value) :: rest => quoted key ++ ":" ++ value.compact ++ "," ++ compactMembers rest

end

/-- A line break and two blanks for each level. -/
def newline (level : Nat) : String :=
  String.ofList ('\n' :: List.replicate (2 * level) ' ')

mutual

/-- A value at a level of indentation, with one item or member to a line. -/
def prettyAt (level : Nat) : Json → String
  | null => "null"
  | bool b => toString b
  | number n => numberText n
  | string s => quoted s
  | array [] => "[]"
  | array (item :: rest) =>
    "[" ++ newline (level + 1) ++ item.prettyAt (level + 1) ++
      prettyItems (level + 1) rest ++ newline level ++ "]"
  | object [] => "\x7b\x7d"
  | object ((key, value) :: rest) =>
    "\x7b" ++ newline (level + 1) ++ quoted key ++ ": " ++ value.prettyAt (level + 1) ++
      prettyMembers (level + 1) rest ++ newline level ++ "\x7d"

/-- The items after the first. -/
def prettyItems (level : Nat) : List Json → String
  | [] => ""
  | item :: rest => "," ++ newline level ++ item.prettyAt level ++ prettyItems level rest

/-- The members after the first. -/
def prettyMembers (level : Nat) : List (String × Json) → String
  | [] => ""
  | (key, value) :: rest =>
    "," ++ newline level ++ quoted key ++ ": " ++ value.prettyAt level ++ prettyMembers level rest

end

/-- A value with one item or member to a line. -/
def pretty (json : Json) : String :=
  json.prettyAt 0

end Json

end ProgramImage
