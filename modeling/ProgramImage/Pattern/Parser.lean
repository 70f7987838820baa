import ProgramImage.Pattern.Class
import ProgramImage.Pattern.Size

/-!
# The basic pattern language

Tables of regular expressions take any language of patterns. This one is offered as a basic
choice for the commands; it has no sets of characters by property, and no other flags than
those of `Flags`.

A pattern is written as alternatives between bars, each a sequence of characters,
classes between brackets, groups between parentheses and assertions, any of which
may be followed by marks of repetition. Flags hold from where they stand to the end
of their group. There is no looking around and no reference back to a group.

`Pattern.parse` reads a whole text. It refuses patterns whose parts are nested deeper
than `maxDepth`, and those whose automaton takes too many bytes.
-/

namespace ProgramImage

namespace Pattern

/-! ### Repetitions -/

/-- The bounds of a repetition, and whether it is marked as lazy. -/
structure Bounds where
  least : Nat
  most : Option Nat
  isMarked : Bool

/-- Reads the mark behind the bounds of a repetition. -/
def readMark (least : Nat) (most : Option Nat) : List Char → Bounds × List Char
  | '?' :: rest => (⟨least, most, true⟩, rest)
  | rest => (⟨least, most, false⟩, rest)

/-- Reads a number, which blanks may surround. -/
def readNumber (text : List Char) : Read (Nat × List Char) :=
  let text := text.dropWhile Text.isBlank
  let digits := text.takeWhile Digits.isDecimal
  let rest := (text.dropWhile Digits.isDecimal).dropWhile Text.isBlank
  match digits with
  | [] => .error .missingNumber
  | _ =>
    match Digits.extend 10 max32 .tooLarge 0 digits with
    | .ok n => .ok (n, rest)
    | .error _ => .error .numberTooLarge

/-- Reads the bounds of a repetition after the opening brace. -/
def readCount (text : List Char) : Read (Bounds × List Char) := do
  let close (least most : Nat) : List Char → Read (Bounds × List Char)
    | '\x7d' :: rest => .ok (readMark least (some most) rest)
    | _ => .error .unclosedCount
  if text.isEmpty then throw .unclosedCount
  let (least, rest) ← readNumber text
  match rest with
  | ',' :: '\x7d' :: rest => return readMark least none rest
  | [','] => throw .unclosedCount
  | ',' :: rest =>
    let (most, rest) ← readNumber rest
    let result ← close least most rest
    if least ≤ most then return result else throw .reversedCount
  | rest => close least least rest

/-- Reads the bounds of a repetition, if there are any. -/
def readRepetition : List Char → Read (Option (Bounds × List Char))
  | '?' :: rest => .ok (some (readMark 0 (some 1) rest))
  | '*' :: rest => .ok (some (readMark 0 none rest))
  | '+' :: rest => .ok (some (readMark 1 none rest))
  | '\x7b' :: rest => (readCount rest).map some
  | _ => .ok none

/-! ### Groups -/

/-- What stands at the start of a group. -/
inductive GroupHead where
  /-- No group, but flags for what follows. -/
  | flags (flags : Flags)
  /-- A group with its flags and the name it may have. `isKept` tells whether its stretch
      is kept. -/
  | group (flags : Flags) (name : Option String) (isKept : Bool)

/-- Whether a character can stand in a group name. -/
def isNameChar (isFirst : Bool) (c : Char) : Bool :=
  c == '_' || letter.contains c ||
    (!isFirst && (c == '.' || c == '[' || c == ']' || number.contains c))

/-- Reads the name of a group up to its closing angle. -/
def readName (text : List Char) : Read (String × List Char) :=
  let name := text.takeWhile (· != '>')
  match text.dropWhile (· != '>') with
  | [] => .error .invalidName
  | _ :: rest =>
    match name with
    | [] => .error .invalidName
    | c :: others =>
      if isNameChar true c && others.all (isNameChar false) then .ok (String.ofList name, rest)
      else .error .invalidName

/-- Reads flags up to a colon or a closing parenthesis. `seen` holds the letters before,
    the hyphen of negation among them. -/
def readFlags (flags : Flags) (seen : List Char) : List Char → Read (Flags × List Char)
  | [] => .error .unclosedGroup
  | c :: rest =>
    if c = ':' || c = ')' then
      if seen.head? = some '-' then .error .danglingNegation else .ok (flags, c :: rest)
    else if seen.contains c then .error .repeatedFlag
    else if c = '-' then readFlags flags ('-' :: seen) rest
    else match flags.set? (!seen.contains '-') c with
      | some flags => readFlags flags (c :: seen) rest
      | none => .error .unknownFlag

/-- Reads the start of a group after its parenthesis. -/
def readGroupHead (flags : Flags) : List Char → Read (GroupHead × List Char)
  | '?' :: '=' :: _ | '?' :: '!' :: _ => .error .lookAround
  | '?' :: '<' :: '=' :: _ | '?' :: '<' :: '!' :: _ => .error .lookAround
  | '?' :: 'P' :: '<' :: rest | '?' :: '<' :: rest =>
    (readName rest).map fun (name, rest) => (.group flags (some name) true, rest)
  | '?' :: ')' :: _ => .error .missingOperand
  | '?' :: rest =>
    match readFlags flags [] rest with
    | .ok (flags, ')' :: rest) => .ok (.flags flags, rest)
    | .ok (flags, rest) => .ok (.group flags none false, rest.drop 1)
    | .error error => .error error
  | rest => .ok (.group flags none true, rest)

/-! ### Patterns -/

/-- What is known while a pattern is read: the flags, and the group names so far. -/
structure State where
  flags : Flags
  names : List String

/-- Enters a group of a given name. -/
def State.enter (state : State) (flags : Flags) : Option String → Except PatternError State
  | none => .ok { state with flags }
  | some name =>
    if state.names.contains name then .error .duplicateName
    else .ok ⟨flags, name :: state.names⟩

/-- The pattern of a character. -/
def ofChar (flags : Flags) (c : Char) : Pattern :=
  one (flags.fold (.char c))

/-- The pattern of an escape sequence. -/
def ofEscape (flags : Flags) : Escape → Pattern
  | .char c => ofChar flags c
  | .set set => one set
  | .assertion condition => assertion condition

/-- The pattern of the dot. -/
def dot (flags : Flags) : Pattern :=
  one (if flags.dotAll then .compl .none else .compl (.char '\n'))

/-- A pattern as it is written, and how deep its parts are nested. -/
structure Part where
  pattern : Pattern
  depth : Nat

/-- The most levels of parts within parts. -/
def maxDepth : Nat := 250

namespace Part

/-- What nests nothing. -/
def leaf (pattern : Pattern) : Part := ⟨pattern, 0⟩

/-- The depth of the deepest of some parts. -/
def deepest (parts : List Part) : Nat :=
  parts.foldl (fun depth part => max depth part.depth) 0

/-- A group, which may keep its stretch. -/
def group (isKept : Bool) (body : Part) : Part :=
  ⟨.group isKept body.pattern, body.depth + 1⟩

/-- A repetition. -/
def repeated (flags : Flags) (body : Part) (bounds : Bounds) : Part :=
  ⟨.repeated body.pattern bounds.least bounds.most (bounds.isMarked != flags.swapLazy),
    body.depth + 1⟩

/-- The pattern of the last parts of a sequence, which the given parts precede, the
    nearest of them first. -/
def sequencePattern (last : Pattern) : List Part → Pattern
  | [] => last
  | part :: before => sequencePattern (seq part.pattern last) before

/-- Parts in a sequence, the last of which comes first. Two or more of them are one level
    below it. -/
def sequence : List Part → Part
  | [] => leaf empty
  | [part] => part
  | last :: before => ⟨sequencePattern last.pattern before, deepest (last :: before) + 1⟩

/-- The pattern of alternatives. -/
def choicePattern (first : Part) : List Part → Pattern
  | [] => first.pattern
  | next :: others => alt first.pattern (choicePattern next others)

/-- Alternatives. Two or more of them are one level below their choice. -/
def choice (first : Part) (others : List Part) : Part :=
  match others with
  | [] => first
  | _ => ⟨choicePattern first others, deepest (first :: others) + 1⟩

end Part

/-- Reads a leaf of a pattern: an escape sequence, a class, the dot, an anchor or a
    character that stands for itself. -/
def readLeaf (flags : Flags) : List Char → Read (Part × List Char)
  | [] => .error .unfinishedEscape
  | '\\' :: rest =>
    (readEscape rest).map fun (escape, rest) => (.leaf (ofEscape flags escape), rest)
  | '[' :: rest =>
    (readWholeClass flags rest).map fun (nested, rest) => (⟨one nested.set, nested.depth⟩, rest)
  | '.' :: rest => .ok (.leaf (dot flags), rest)
  | '^' :: rest =>
    .ok (.leaf (assertion (if flags.multiLine then .lineStart else .textStart)), rest)
  | '$' :: rest =>
    .ok (.leaf (assertion (if flags.multiLine then .lineEnd else .textEnd)), rest)
  | c :: rest => .ok (.leaf (ofChar flags c), rest)

/-- The items of a sequence before the last one, the nearest of them first, and the last
    one, which a repetition may follow. -/
structure Sequence where
  before : List Part
  last : Option Part

namespace Sequence

/-- The start of a sequence. -/
def initial : Sequence := ⟨[], none⟩

/-- The items, the last of which comes first. -/
def items (sequence : Sequence) : List Part :=
  sequence.last.toList ++ sequence.before

def push (sequence : Sequence) (item : Part) : Sequence :=
  ⟨sequence.items, some item⟩

/-- Adds an item that no repetition may follow. -/
def pushClosed (sequence : Sequence) (item : Part) : Sequence :=
  ⟨item :: sequence.items, none⟩

end Sequence

mutual

/-- Reads alternatives up to the end of their group. -/
def readAlternatives : Nat → State → List Char → Read (Part × State × List Char)
  | 0, _, _ => .error .unclosedGroup
  | fuel + 1, state, text => do
    let (first, state, rest) ← readSequence fuel state .initial text
    let (others, state, rest) ← readOthers fuel state rest
    return (.choice first others, state, rest)

/-- Reads the alternatives behind bars. -/
def readOthers : Nat → State → List Char → Read (List Part × State × List Char)
  | 0, _, _ => .error .unclosedGroup
  | fuel + 1, state, text => do
    match text with
    | '|' :: rest =>
      let (next, state, rest) ← readSequence fuel state .initial rest
      let (others, state, rest) ← readOthers fuel state rest
      return (next :: others, state, rest)
    | rest => return ([], state, rest)

/-- Reads a sequence up to a bar or the end of its group. -/
def readSequence : Nat → State → Sequence → List Char → Read (Part × State × List Char)
  | 0, _, _, _ => .error .unclosedGroup
  | fuel + 1, state, sequence, text => do
    match ← readRepetition text with
    | some (bounds, rest) =>
      match sequence.last with
      | none => throw .missingOperand
      | some last =>
        let last := last.repeated state.flags bounds
        readSequence fuel state { sequence with last := some last } rest
    | none =>
      match text with
      | [] | '|' :: _ | ')' :: _ => return (.sequence sequence.items, state, text)
      | '(' :: rest =>
        match ← readGroupHead state.flags rest with
        | (.flags flags, rest) =>
          readSequence fuel { state with flags } (sequence.pushClosed (.leaf empty)) rest
        | (.group flags name isKept, rest) =>
          let inner ← state.enter flags name
          let (body, inner, rest) ← readAlternatives fuel inner rest
          match rest with
          | ')' :: rest =>
            readSequence fuel ⟨state.flags, inner.names⟩ (sequence.push (body.group isKept)) rest
          | _ => throw .unclosedGroup
      | text =>
        let (leaf, rest) ← readLeaf state.flags text
        readSequence fuel state (sequence.push leaf) rest

end

/-- Reads a whole text as a pattern. -/
def parse (text : String) : Except PatternError Pattern := do
  let chars := text.toList
  let (part, _, rest) ← readAlternatives (2 * chars.length + 2) ⟨.initial, []⟩ chars
  if !rest.isEmpty then throw .unopenedGroup
  if part.depth > maxDepth then throw .tooDeep
  if part.pattern.isTooLarge then throw .tooLarge
  return part.pattern

end Pattern

end ProgramImage
