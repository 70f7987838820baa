import ProgramImage.Pattern.Memo
import ProgramImage.Pattern.Spelling

/-!
# Blueprints of automata

A blueprint lists what an automaton over the bytes of a text consists of, in the order
in which its states are built. `Blueprint.build` carries it out as far as the number of
states and their bytes are concerned, and gives up when these are more than `maxBytes`.

Each state takes `stateBytes`, each byte range that leads out of a state another
`moveBytes`, and each branch of a choice `branchBytes`. Most parts take the same wherever
they stand. A set of characters of several bytes does not: equal states for it are
shared as far as a memo remembers them, and what it remembers depends on the numbers of
the states before.
-/

namespace ProgramImage

/-- The directions in which an automaton reads. -/
inductive Direction where
  | forwards
  | backwards
  deriving DecidableEq, Repr

/-- A list of the parts of an automaton. -/
inductive Blueprint where
  /-- A number of states that take a number of bytes. -/
  | states (count bytes : Nat)
  /-- The states that read a character with one of some spellings. -/
  | characters (spellings : List Spelling)
  | seq (first second : Blueprint)
  | times (count : Nat) (body : Blueprint)

namespace Blueprint

/-- The bytes of a state. -/
def stateBytes : Nat := 32

/-- The bytes of a byte range that leads from a state to another. -/
def moveBytes : Nat := 8

/-- The bytes of a branch of a choice. -/
def branchBytes : Nat := 4

/-- The most bytes that an automaton may take. -/
def maxBytes : Nat := 0xA00000

/-- A state without branches and byte ranges of its own. -/
def state : Blueprint :=
  states 1 stateBytes

/-- A choice of a number of branches. -/
def choice (branches : Nat) : Blueprint :=
  states 1 (stateBytes + branchBytes * branches)

/-- Two blueprints, one after the other. -/
def append : Blueprint → Blueprint → Blueprint
  | states count bytes, states count' bytes' => states (count + count') (bytes + bytes')
  | first, second => seq first second

instance : Append Blueprint := ⟨append⟩

/-- A number of copies of a blueprint. -/
def copies (count : Nat) : Blueprint → Blueprint
  | states count' bytes => states (count * count') (count * bytes)
  | body => times count body

end Blueprint

/-- An automaton as it is built: the number of its states, their bytes, and what is
    remembered of them. -/
structure Draft where
  states : Nat
  bytes : Nat
  memo : Memo

namespace Draft

/-- An automaton without states. The memo is larger for one that reads forwards. -/
def initial : Direction → Draft
  | .forwards => ⟨0, 0, .ofSize 10000⟩
  | .backwards => ⟨0, 0, .ofSize 1000⟩

/-- Adds states. -/
def add (draft : Draft) (count bytes : Nat) : Draft :=
  ⟨draft.states + count, draft.bytes + bytes, draft.memo⟩

/-- The state for a key: the one that is remembered, or a new one of some bytes. -/
def share (draft : Draft) (occasion : Nat) (key : List Nat) (bytes : Nat) : Nat × Draft :=
  match draft.memo.find? occasion key with
  | some state => (state, draft)
  | none =>
    match draft with
    | ⟨states, size, memo⟩ =>
      (states, ⟨states + 1, size + bytes, memo.insert occasion key states⟩)

/-- Adds the states that read spellings in order up to a last state: the states behind the
    first byte ranges, and then the one that they lead from. The fuel bounds the length of
    the spellings. -/
def addForwards (last : Nat) : Nat → List Spelling → Draft → Nat × Draft
  | 0, _, draft => (last, draft)
  | fuel + 1, spellings, draft =>
    let (moves, draft) := (Spelling.groups spellings).foldl (fun (moves, draft) group =>
      match group with
      | ((low, high) :: _) :: _ =>
        match group.map List.tail with
        | [[]] => (moves ++ [low, high, last], draft)
        | rests =>
          let (next, draft) := addForwards last fuel rests draft
          (moves ++ [low, high, next], draft)
      | _ => (moves, draft)) ([], draft)
    draft.share last moves (Blueprint.stateBytes + Blueprint.moveBytes * (moves.length / 3))

/-- Adds the states that read one spelling from its end, where its first byte range leads
    to a last state. -/
def addBackwards (last : Nat) (draft : Draft) (spelling : Spelling) : Draft :=
  (spelling.foldl (fun (next, draft) (low, high) =>
    share draft last [next, low, high] Blueprint.stateBytes) (last, draft)).2

/-- Adds the states that read a character. Forwards, they lead to one state. Backwards,
    they stand between a choice and a state. -/
def addCharacters (draft : Draft) (spellings : List Spelling) : Direction → Draft
  | .forwards =>
    (addForwards draft.states 4 spellings (draft.add 1 Blueprint.stateBytes)).2
  | .backwards =>
    spellings.foldl (addBackwards (draft.states + 1))
      (draft.add 2 (2 * Blueprint.stateBytes + Blueprint.branchBytes * spellings.length))

/-- The automaton, unless it takes too many bytes. -/
def fitting? (draft : Draft) : Option Draft :=
  if draft.bytes ≤ Blueprint.maxBytes then some draft else none

/-- Does a step a number of times, as long as it succeeds. -/
def iterate (step : Draft → Option Draft) : Nat → Draft → Option Draft
  | 0, draft => some draft
  | count + 1, draft =>
    match step draft with
    | some draft => iterate step count draft
    | none => none

end Draft

namespace Blueprint

/-- Adds what a blueprint lists to an automaton, unless it gets too large. -/
def build (direction : Direction) : Blueprint → Draft → Option Draft
  | states count bytes, draft => (draft.add count bytes).fitting?
  | characters spellings, draft => (draft.addCharacters spellings direction).fitting?
  | seq first second, draft =>
    match first.build direction draft with
    | some draft => second.build direction draft
    | none => none
  | times count body, draft => Draft.iterate (body.build direction) count draft

/-- The bytes of the automaton of a blueprint, unless they are too many. -/
def bytes? (direction : Direction) (blueprint : Blueprint) : Option Nat :=
  (blueprint.build direction (.initial direction)).map Draft.bytes

end Blueprint

end ProgramImage
