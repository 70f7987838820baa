import ProgramImage.Pattern.Blueprint
import ProgramImage.Pattern.LiteralTrie
import ProgramImage.Pattern.Normal

/-!
# The size of a pattern

A pattern is run by automata over the bytes of a text, one that reads forwards and one
that reads backwards. Counted repetitions are written out, so that a short pattern can
have a large automaton. `NormalForm.blueprint` tells what the automaton of a pattern
consists of, and `Pattern.isTooLarge` whether one of the two takes too many bytes.
-/

namespace ProgramImage

namespace Blueprint

/-- The states that read a character of a set: ASCII characters are read at once, others
    byte by byte. -/
def ofRanges (ranges : Text.Ranges) : Blueprint :=
  let runs := ranges.runs
  if runs.all fun (_, high) => high < 0x80 then
    states 2 (2 * stateBytes + moveBytes * runs.length)
  else characters (Spelling.ofRanges ranges)

/-- The states of a repetition of a body. Stretches that have to be there are written
    out. Further ones are choices that lead past them or, without a bound, back to the
    last. -/
def repeated (isNeverEmpty : Bool) (body : Blueprint) : Nat → Option Nat → Blueprint
  | 0, none =>
    if isNeverEmpty then choice 2 ++ body else body ++ choice 2 ++ choice 2 ++ state
  | least + 1, none => copies (least + 1) body ++ choice 2
  | 0, some 1 => choice 2 ++ body ++ state
  | least, some most =>
    if least = most then copies least body
    else
      (if least = 0 then state else copies least body) ++ state ++
        copies (most - least) (choice 2 ++ body)

/-- The states of a choice between literals, which a direction reads from one end. -/
def ofLiterals (direction : Direction) (literals : List (List Char)) : Blueprint :=
  let count := LiteralTrie.ofLiterals <| literals.map fun chars =>
    match direction with
    | .forwards => Utf8.encode chars
    | .backwards => (Utf8.encode chars).reverse
  states count.states
    (stateBytes * count.states + moveBytes * count.moves + branchBytes * count.branches)

/-- The states of a choice: the first two branches, the choice with the state that closes
    it, and the other branches. -/
def ofBranches : List Blueprint → Blueprint
  | first :: second :: others =>
    others.foldl append (first ++ second ++ choice (others.length + 2) ++ state)
  | [branch] => branch
  | [] => state

/-- The states before a pattern: one, or a loop over all bytes when a match can begin
    anywhere. -/
def entrance (isAnchored : Bool) : Blueprint :=
  if isAnchored then state else choice 2 ++ ofRanges (.interval 0 0)

end Blueprint

namespace NormalForm

mutual

/-- What a pattern takes in the automaton that reads in a direction. Only the one that
    reads forwards keeps the stretches of groups. -/
def blueprint (direction : Direction) : NormalForm → Blueprint
  | empty | assertion _ => .state
  | literal chars => .copies (Utf8.encode chars).length .state
  | anyOf ranges => .ofRanges ranges
  | kept body =>
    match direction with
    | .forwards => .append .state (.append (body.blueprint direction) .state)
    | .backwards => body.blueprint direction
  | repeated body least most _ =>
    .repeated body.isNeverEmpty (body.blueprint direction) least most
  | seq items => sequenceBlueprint direction items
  | choice branches =>
    match branches.mapM chars? with
    | some literals => .ofLiterals direction literals
    | none => .ofBranches (blueprints direction branches)

/-- What patterns in a row take. Backwards, the last one comes first. -/
def sequenceBlueprint (direction : Direction) : List NormalForm → Blueprint
  | [] => .states 0 0
  | item :: rest =>
    match direction with
    | .forwards => item.blueprint direction ++ sequenceBlueprint direction rest
    | .backwards => sequenceBlueprint direction rest ++ item.blueprint direction

/-- What each of some patterns takes. -/
def blueprints (direction : Direction) : List NormalForm → List Blueprint
  | [] => []
  | form :: rest => form.blueprint direction :: blueprints direction rest

end

/-- The whole automaton that reads in a direction. It has a first and a last state, and
    the one that reads forwards keeps the stretch of the match. -/
def wholeBlueprint (form : NormalForm) : Direction → Blueprint
  | .forwards =>
    .entrance form.beginsAtStart ++ (kept form).blueprint .forwards ++ Blueprint.state
  | .backwards =>
    .entrance form.endsAtEnd ++ form.blueprint .backwards ++ Blueprint.state

end NormalForm

/-- The bytes of the automaton that reads a pattern in a direction, unless they are too
    many. -/
def Pattern.bytes? (pattern : Pattern) (direction : Direction) : Option Nat :=
  ((NormalForm.ofPattern pattern).wholeBlueprint direction).bytes? direction

/-- Whether one of the automata of a pattern takes too many bytes. -/
def Pattern.isTooLarge (pattern : Pattern) : Bool :=
  (pattern.bytes? .forwards).isNone || (pattern.bytes? .backwards).isNone

end ProgramImage
