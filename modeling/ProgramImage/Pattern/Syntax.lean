import ProgramImage.Pattern.Tables
import ProgramImage.Text.Blank

/-!
# Patterns

A pattern describes how a stretch of a text may look. Its leaves are sets of
characters, each of which stands for one character, and assertions about the place
between two characters; sequences, alternatives and repetitions combine them.

All that is asked of a pattern is whether there is a match. Which groups keep their
stretch and which repetitions prefer few stretches makes no difference to that; it does
to the size of a pattern.
-/

namespace ProgramImage

/-- A set of characters. -/
inductive CharSet where
  | none
  | char (c : Char)
  | range (low high : Char)
  /-- Decimal digits of every script. -/
  | digit
  /-- White space. -/
  | space
  /-- Characters of words. -/
  | word
  | union (first second : CharSet)
  | inter (first second : CharSet)
  | compl (set : CharSet)
  /-- Every character that differs in case only from one of the set. -/
  | foldCase (set : CharSet)
  deriving DecidableEq, Repr, Inhabited

namespace CharSet

def contains : CharSet → Char → Bool
  | none, _ => false
  | char c, d => c == d
  | range low high, d => low ≤ d && d ≤ high
  | digit, d => Pattern.digit.contains d
  | space, d => Text.isBlank d
  | word, d => Pattern.word.contains d
  | union first second, d => first.contains d || second.contains d
  | inter first second, d => first.contains d && second.contains d
  | compl set, d => !set.contains d
  | foldCase set, d => (Pattern.sameCase d).any fun c => set.contains c

/-- The characters of the first set that are not in the second. -/
def diff (first second : CharSet) : CharSet :=
  inter first (compl second)

/-- The characters that are in one of two sets, but not in both. -/
def symmDiff (first second : CharSet) : CharSet :=
  union (diff first second) (diff second first)

/-- The union of sets. -/
def ofList (sets : List CharSet) : CharSet :=
  sets.foldr union none

/-- The sets that have a name between brackets and colons. They hold ASCII characters
    only. -/
def named : List (String × CharSet) :=
  let upper := range 'A' 'Z'
  let lower := range 'a' 'z'
  let digits := range '0' '9'
  [("alnum", ofList [digits, upper, lower]),
   ("alpha", ofList [upper, lower]),
   ("ascii", range '\x00' '\x7f'),
   ("blank", ofList [char '\t', char ' ']),
   ("cntrl", ofList [range '\x00' '\x1f', char '\x7f']),
   ("digit", digits),
   ("graph", range '!' '~'),
   ("lower", lower),
   ("print", range ' ' '~'),
   ("punct", ofList [range '!' '/', range ':' '@', range '[' '\x60', range '\x7b' '~']),
   ("space", ofList [range '\t' '\r', char ' ']),
   ("upper", upper),
   ("word", ofList [digits, upper, char '_', lower]),
   ("xdigit", ofList [digits, range 'A' 'F', range 'a' 'f'])]

end CharSet

/-- A condition on a place in a text. -/
inductive Assertion where
  | textStart
  | textEnd
  | lineStart
  | lineEnd
  /-- One neighbour is a character of a word and the other is not. -/
  | wordBoundary
  | notWordBoundary
  | wordStart
  | wordEnd
  /-- No character of a word stands before the place. -/
  | wordStartHalf
  /-- No character of a word stands behind the place. -/
  | wordEndHalf
  deriving DecidableEq, Repr

/-- Whether a condition holds between two characters, of which one is absent at an end
    of the text. -/
def Assertion.holds (assertion : Assertion) (before after : Option Char) : Bool :=
  let wordBefore := before.any CharSet.word.contains
  let wordAfter := after.any CharSet.word.contains
  match assertion with
  | textStart => before.isNone
  | textEnd => after.isNone
  | lineStart => before.all (· == '\n')
  | lineEnd => after.all (· == '\n')
  | wordBoundary => wordBefore != wordAfter
  | notWordBoundary => wordBefore == wordAfter
  | wordStart => !wordBefore && wordAfter
  | wordEnd => wordBefore && !wordAfter
  | wordStartHalf => !wordBefore
  | wordEndHalf => !wordAfter

/-- A pattern. -/
inductive Pattern where
  /-- The empty stretch. -/
  | empty
  /-- One character of a set. -/
  | one (set : CharSet)
  /-- The empty stretch at a place that meets a condition. -/
  | assertion (condition : Assertion)
  | seq (first second : Pattern)
  | alt (first second : Pattern)
  /-- A pattern between parentheses, whose stretch may be kept. -/
  | group (isKept : Bool) (body : Pattern)
  /-- As many stretches as the bounds allow, one after the other: as few as possible
      rather than many when the repetition is lazy. -/
  | repeated (body : Pattern) (least : Nat) (most : Option Nat) (isLazy : Bool)
  deriving DecidableEq, Repr, Inhabited

end ProgramImage
