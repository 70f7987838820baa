import ProgramImage.Pattern.Syntax

/-!
# Faults and flags of the basic pattern language

`PatternError` tells why a text is not a pattern. `Flags` tells how the text behind a
place is read.
-/

namespace ProgramImage

/-- Why a text is not a pattern. -/
inductive PatternError where
  | unclosedGroup
  | unopenedGroup
  | unclosedClass
  | unclosedCount
  /-- A repetition of nothing. -/
  | missingOperand
  | missingNumber
  | numberTooLarge
  /-- A repetition with more at least than at most. -/
  | reversedCount
  /-- A range of characters that ends before it starts. -/
  | reversedRange
  /-- A range of something else than characters. -/
  | rangeOfClasses
  /-- An assertion in a class. -/
  | assertionInClass
  | unfinishedEscape
  | unknownEscape
  | invalidCodePoint
  | backreference
  | lookAround
  | unknownFlag
  | repeatedFlag
  | danglingNegation
  | invalidName
  | duplicateName
  /-- Parts within parts, beyond the limit. -/
  | tooDeep
  /-- More bytes than an automaton may take. -/
  | tooLarge
  deriving DecidableEq, Repr

/-- What is wrong with a pattern, in words. -/
def PatternError.reason : PatternError → String
  | unclosedGroup => "unclosed group"
  | unopenedGroup => "unopened group"
  | unclosedClass => "unclosed character class"
  | unclosedCount => "unclosed counted repetition"
  | missingOperand => "repetition operator missing expression"
  | missingNumber => "repetition quantifier expects a valid decimal"
  | numberTooLarge => "decimal literal invalid"
  | reversedCount => "invalid repetition count range, the start must be at most the end"
  | reversedRange => "invalid character class range, the start must be at most the end"
  | rangeOfClasses => "invalid range boundary, must be a literal"
  | assertionInClass => "invalid escape sequence found in character class"
  | unfinishedEscape => "incomplete escape sequence, reached end of pattern prematurely"
  | unknownEscape => "unrecognized escape sequence"
  | invalidCodePoint => "hexadecimal literal is not a Unicode scalar value"
  | backreference => "backreferences are not supported"
  | lookAround => "look-around, including look-ahead and look-behind, is not supported"
  | unknownFlag => "unrecognized flag"
  | repeatedFlag => "duplicate flag"
  | danglingNegation => "dangling flag negation operator"
  | invalidName => "invalid capture group name"
  | duplicateName => "duplicate capture group name"
  | tooDeep => "exceed the maximum number of nested parentheses/brackets (250)"
  | tooLarge => "Compiled regex exceeds size limit of 10485760 bytes."

def PatternError.message : PatternError → String
  | tooLarge => tooLarge.reason
  | error => "regex parse error: " ++ error.reason

namespace Pattern

/-- How what follows is read. -/
structure Flags where
  /-- Case makes no difference. -/
  ignoreCase : Bool
  /-- The anchors also hold at line breaks. -/
  multiLine : Bool
  /-- The dot also stands for a line break. -/
  dotAll : Bool
  /-- Repetitions are lazy, except those that are marked. -/
  swapLazy : Bool
  deriving DecidableEq, Repr

/-- The flags at the start of a pattern. -/
def Flags.initial : Flags := ⟨false, false, false, false⟩

/-- Sets or clears the flag of a letter, if there is one. -/
def Flags.set? (flags : Flags) (value : Bool) : Char → Option Flags
  | 'i' => some { flags with ignoreCase := value }
  | 'm' => some { flags with multiLine := value }
  | 's' => some { flags with dotAll := value }
  | 'U' => some { flags with swapLazy := value }
  | _ => none

/-- The set of a class, as the flags want it. -/
def Flags.fold (flags : Flags) (set : CharSet) : CharSet :=
  if flags.ignoreCase then .foldCase set else set

/-- What a reader gives back. -/
abbrev Read := Except PatternError

end Pattern

end ProgramImage
