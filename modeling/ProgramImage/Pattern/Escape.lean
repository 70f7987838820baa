import ProgramImage.Number.Digits
import ProgramImage.Pattern.Flags

/-!
# Escape sequences of basic patterns

A backslash takes the meaning from a mark of the language, or gives one to a letter:
a character that is hard to write, a set of characters, or an assertion. A digit
behind a backslash would refer back to a group, which no pattern can.
-/

namespace ProgramImage

namespace Pattern

/-- The meaning of an escape sequence. -/
inductive Escape where
  | char (c : Char)
  | set (set : CharSet)
  | assertion (condition : Assertion)

/-- Whether a character has a meaning in patterns and in classes. -/
def isMeta (c : Char) : Bool :=
  "\\.+*?()|[]\x7b\x7d^$#&-~".toList.contains c

/-- Whether a backslash may stand before a character that has no meaning of its own. -/
def isPunctuation (c : Char) : Bool :=
  c.toNat < 128 && !c.isAlphanum && c != '<' && c != '>'

/-- The value of hexadecimal digits as a code point. -/
def codePoint? (digits : List Char) : Except PatternError Char :=
  match Digits.extend 16 0x10FFFF .tooLarge 0 digits with
  | .ok n => if n.isValidChar then .ok (Char.ofNat n) else .error .invalidCodePoint
  | .error .invalidDigit => .error .invalidCodePoint
  | .error _ => .error .invalidCodePoint

/-- Reads a code point in hexadecimal, either between braces or with a fixed number of
    digits. -/
def readCodePoint (width : Nat) : List Char → Read (Escape × List Char)
  | '\x7b' :: rest =>
    let digits := rest.takeWhile (· != '\x7d')
    match rest.dropWhile (· != '\x7d') with
    | [] => .error .unfinishedEscape
    | _ :: rest =>
      if digits.isEmpty then .error .invalidCodePoint
      else (codePoint? digits).map fun c => (.char c, rest)
  | rest =>
    let digits := rest.take width
    if digits.length < width then .error .unfinishedEscape
    else (codePoint? digits).map fun c => (.char c, rest.drop width)

/-- Whether a character can stand in the name of a kind of word boundary. -/
def isBoundaryName (c : Char) : Bool :=
  c.isAlpha || c == '-'

/-- Reads what follows the letter of a word boundary: nothing, or the name of a special
    kind between braces. Other braces hold a count. -/
def readBoundary : List Char → Read (Escape × List Char)
  | '\x7b' :: rest =>
    match rest with
    | [] => .error .unclosedCount
    | c :: _ =>
      if !isBoundaryName c then .ok (.assertion .wordBoundary, '\x7b' :: rest)
      else
        let name := rest.takeWhile isBoundaryName
        match rest.dropWhile isBoundaryName with
        | '\x7d' :: rest =>
          match String.ofList name with
          | "start" => .ok (.assertion .wordStart, rest)
          | "end" => .ok (.assertion .wordEnd, rest)
          | "start-half" => .ok (.assertion .wordStartHalf, rest)
          | "end-half" => .ok (.assertion .wordEndHalf, rest)
          | _ => .error .unknownEscape
        | _ => .error .unknownEscape
  | rest => .ok (.assertion .wordBoundary, rest)

/-- Reads an escape sequence after its backslash. -/
def readEscape : List Char → Read (Escape × List Char)
  | [] => .error .unfinishedEscape
  | c :: rest =>
    if c.isDigit then .error .backreference
    else if isMeta c || isPunctuation c then .ok (.char c, rest)
    else match c with
      | 'x' => readCodePoint 2 rest
      | 'u' => readCodePoint 4 rest
      | 'U' => readCodePoint 8 rest
      | 'd' => .ok (.set .digit, rest)
      | 'D' => .ok (.set (.compl .digit), rest)
      | 's' => .ok (.set .space, rest)
      | 'S' => .ok (.set (.compl .space), rest)
      | 'w' => .ok (.set .word, rest)
      | 'W' => .ok (.set (.compl .word), rest)
      | 'a' => .ok (.char '\x07', rest)
      | 'f' => .ok (.char '\x0c', rest)
      | 't' => .ok (.char '\t', rest)
      | 'n' => .ok (.char '\n', rest)
      | 'r' => .ok (.char '\r', rest)
      | 'v' => .ok (.char '\x0b', rest)
      | 'A' => .ok (.assertion .textStart, rest)
      | 'z' => .ok (.assertion .textEnd, rest)
      | 'b' => readBoundary rest
      | 'B' => .ok (.assertion .notWordBoundary, rest)
      | '<' => .ok (.assertion .wordStart, rest)
      | '>' => .ok (.assertion .wordEnd, rest)
      | _ => .error .unknownEscape

end Pattern

end ProgramImage
