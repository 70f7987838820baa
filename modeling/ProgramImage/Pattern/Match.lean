import ProgramImage.Pattern.Plain

/-!
# Matching

A text is read character by character, and all matches of a pattern are followed at
once. `Progress` is a plain pattern whose sets are marked where a match that is under
way has just read a character; parts in which nothing is under way are left alone.

At each place between two characters, `Progress.step` tells whether some match ends
there, and lets every match that goes on read the next character. A pattern matches a
text when a match that begins anywhere ends anywhere.
-/

namespace ProgramImage

/-- A place in a text, by the characters before and after it. -/
structure Place where
  before : Option Char
  after : Option Char

/-- Whether the next character is one of a set. -/
def Place.reads (place : Place) (set : CharSet) : Bool :=
  place.after.any set.contains

namespace PlainPattern

/-- Whether a pattern matches the empty stretch at a place. -/
def passes (place : Place) : PlainPattern → Bool
  | empty => true
  | one _ => false
  | assertion condition => condition.holds place.before place.after
  | plus body => body.passes place
  | seq first second => first.passes place && second.passes place
  | alt first second => first.passes place || second.passes place
  | chain first _ => first.passes place

/-- Whether all copies of a chain match the empty stretch at a place. -/
def passesWhole (place : Place) : PlainPattern → Bool
  | chain first second => first.passesWhole place && second.passesWhole place
  | pattern => pattern.passes place

end PlainPattern

/-- The matches of a plain pattern that are under way. -/
inductive Progress where
  /-- There is none. -/
  | idle (pattern : PlainPattern)
  /-- One that has just read a character of a set. -/
  | read (set : CharSet)
  | seq (first second : Progress)
  | alt (first second : Progress)
  | plus (body : Progress)
  | chain (first second : Progress)
  deriving Repr, Inhabited

/-- What comes of the matches of a pattern at a place. -/
structure Arrival where
  /-- Whether one of them ends there. -/
  ends : Bool
  /-- Whether one ends there that has matched all copies of a chain. -/
  endsWhole : Bool
  /-- What is under way when the next character has been read. -/
  progress : Progress

namespace Progress

/-- Matches of two patterns in a sequence. -/
def inSequence : Progress → Progress → Progress
  | idle first, idle second => idle (.seq first second)
  | first, second => seq first second

/-- Matches of one of two patterns. -/
def inChoice : Progress → Progress → Progress
  | idle first, idle second => idle (.alt first second)
  | first, second => alt first second

/-- Matches of a pattern within its repetition. -/
def inPlus : Progress → Progress
  | idle body => idle (.plus body)
  | body => plus body

/-- Matches of copies in a chain. -/
def inChain : Progress → Progress → Progress
  | idle first, idle second => idle (.chain first second)
  | first, second => chain first second

/-- Whether a match of the pattern passes a place without reading. -/
def passes (place : Place) : Progress → Bool
  | idle pattern => pattern.passes place
  | read _ => false
  | seq first second => first.passes place && second.passes place
  | alt first second => first.passes place || second.passes place
  | plus body => body.passes place
  | chain first _ => first.passes place

/-- Whether a match of all copies of a chain passes a place without reading. -/
def passesWhole (place : Place) : Progress → Bool
  | idle pattern => pattern.passesWhole place
  | chain first second => first.passesWhole place && second.passesWhole place
  | progress => progress.passes place

/-- Whether one of the matches ends at a place, and whether one does that has matched all
    copies of a chain. -/
def endings (place : Place) : Progress → Bool × Bool
  | idle _ => (false, false)
  | read _ => (true, true)
  | seq first second =>
    let ends := (second.endings place).1 || ((first.endings place).1 && second.passes place)
    (ends, ends)
  | alt first second =>
    let ends := (first.endings place).1 || (second.endings place).1
    (ends, ends)
  | plus body =>
    let ends := (body.endings place).1
    (ends, ends)
  | chain first second =>
    let (ends, endsWhole) := first.endings place
    let (behind, behindWhole) := second.endings place
    (ends || behind || (endsWhole && second.passes place),
      behindWhole || (endsWhole && second.passesWhole place))

end Progress

namespace Arrival

/-- What comes of matches that are not those of a chain. -/
def plain (ends : Bool) (progress : Progress) : Arrival :=
  ⟨ends, ends, progress⟩

/-- What comes of a pattern and another one, where matches of the second begin at the
    ends of matches of the first. -/
def seq (first : Arrival) (second : Bool → Arrival) : Arrival :=
  let behind := second first.ends
  plain behind.ends (first.progress.inSequence behind.progress)

/-- What comes of two patterns of which one is to match. -/
def alt (first second : Arrival) : Arrival :=
  plain (first.ends || second.ends) (first.progress.inChoice second.progress)

/-- What comes of a pattern within its repetition. -/
def plus (body : Arrival) : Arrival :=
  plain body.ends body.progress.inPlus

/-- What comes of copies in a chain, where a match goes on with the second part when it has
    matched all of the first. -/
def chain (first : Arrival) (second : Bool → Arrival) : Arrival :=
  let behind := second first.endsWhole
  ⟨first.ends || behind.ends, behind.endsWhole, first.progress.inChain behind.progress⟩

end Arrival

namespace Progress

/-- Begins a match at a place, if asked to. -/
def start (place : Place) : PlainPattern → Bool → Arrival
  | pattern, false => .plain false (idle pattern)
  | .empty, true => .plain true (idle .empty)
  | .one set, true => .plain false (if place.reads set then read set else idle (.one set))
  | .assertion condition, true =>
    .plain (condition.holds place.before place.after) (idle (.assertion condition))
  | .seq first second, true => (start place first true).seq (start place second)
  | .alt first second, true => (start place first true).alt (start place second true)
  | .plus body, true => (start place body true).plus
  | .chain first second, true => (start place first true).chain (start place second)

/-- Goes on with the matches at a place, where another one begins if asked to. -/
def step (place : Place) : Progress → Bool → Arrival
  | idle pattern, begins => start place pattern begins
  | read set, begins =>
    .plain true (if begins && place.reads set then read set else idle (.one set))
  | seq first second, begins => (first.step place begins).seq (second.step place)
  | alt first second, begins => (first.step place begins).alt (second.step place begins)
  | plus body, begins => (body.step place (begins || (body.endings place).1)).plus
  | chain first second, begins => (first.step place begins).chain (second.step place)

/-- Whether some match ends in the rest of a text, when one may begin at every place. -/
def endsIn (progress : Progress) (before : Option Char) : List Char → Bool
  | [] => (progress.step ⟨before, none⟩ true).ends
  | c :: rest =>
    let arrival := progress.step ⟨before, some c⟩ true
    arrival.ends || arrival.progress.endsIn (some c) rest

end Progress

/-- Whether a pattern matches some stretch of a text. -/
def Pattern.matchesIn (pattern : Pattern) (text : String) : Bool :=
  (Progress.idle pattern.plain).endsIn none text.toList

end ProgramImage
