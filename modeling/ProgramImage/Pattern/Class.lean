import ProgramImage.Pattern.Escape

/-!
# Classes of characters in patterns

A class stands between brackets and holds characters, ranges, escape sequences, named
sets and other classes. Between such parts may stand an intersection, a difference or
a symmetric difference, which all bind from the left. When case is ignored, the
operands are closed under case before an operation, and a class or a named set before
it is negated.

How deep a class is nested is kept with its set: a class lies within a class, two or
more items within their union, and the operands within an operation.
-/

namespace ProgramImage

namespace Pattern

/-- A set of characters as it is written, and how deep it is nested. -/
structure NestedSet where
  set : CharSet
  depth : Nat

/-- The operations between the parts of a class. -/
inductive SetOp where
  | inter
  | diff
  | symmDiff

/-- Applies an operation. -/
def SetOp.apply : SetOp → CharSet → CharSet → CharSet
  | inter => .inter
  | diff => .diff
  | symmDiff => .symmDiff

/-- A part of a class, and the operation with what stood before it. -/
structure ClassPart where
  before : Option (SetOp × NestedSet)
  /-- The union of the items so far, and the depth of the deepest. -/
  items : NestedSet
  /-- The number of items. -/
  count : Nat

namespace ClassPart

/-- The start of a class. -/
def initial : ClassPart := ⟨none, ⟨.none, 0⟩, 0⟩

/-- Adds an item to a part. -/
def add (part : ClassPart) (item : NestedSet) : ClassPart :=
  { part with
    items := ⟨.union part.items.set item.set, max part.items.depth item.depth⟩
    count := part.count + 1 }

/-- Adds an item that nests nothing. -/
def addSet (part : ClassPart) (set : CharSet) : ClassPart :=
  part.add ⟨set, 0⟩

/-- The union of the items. -/
def union (part : ClassPart) : NestedSet :=
  { part.items with depth := part.items.depth + if part.count < 2 then 0 else 1 }

/-- The set of a part together with what stood before it. -/
def value (flags : Flags) (part : ClassPart) : NestedSet :=
  match part.before with
  | none => part.union
  | some (op, left) =>
    ⟨op.apply (flags.fold left.set) (flags.fold part.union.set),
      max left.depth part.union.depth + 1⟩

/-- Ends a part at an operation, which starts the next. -/
def next (flags : Flags) (op : SetOp) (part : ClassPart) : ClassPart :=
  { initial with before := some (op, part.value flags) }

end ClassPart

/-- The set of a class or of a named set, as the flags want it. -/
def Flags.close (flags : Flags) (negated : Bool) (set : CharSet) : CharSet :=
  if negated then .compl (flags.fold set) else flags.fold set

/-- Reads a named class after its bracket, such as the digits in `[:digit:]`. Text that
    does not name one is read as something else. -/
def readNamed? (flags : Flags) : List Char → Option (CharSet × List Char)
  | ':' :: rest =>
    let (negated, rest) := match rest with
      | '^' :: rest => (true, rest)
      | rest => (false, rest)
    let name := rest.takeWhile (· != ':')
    match rest.dropWhile (· != ':') with
    | ':' :: ']' :: rest =>
      (CharSet.named.lookup (String.ofList name)).map fun set =>
        (flags.close negated set, rest)
    | _ => none
  | _ => none

/-- Reads one character of a class, or an escape sequence. -/
def readClassItem : List Char → Read (Escape × List Char)
  | [] => .error .unclosedClass
  | '\\' :: rest => readEscape rest
  | c :: rest => .ok (.char c, rest)

/-- The set of a class item that is no end of a range. -/
def Escape.toSet : Escape → Except PatternError CharSet
  | char c => .ok (.char c)
  | set s => .ok s
  | assertion _ => .error .assertionInClass

/-- Whether a hyphen makes a range with what follows it. -/
def opensRange : List Char → Bool
  | [] => true
  | c :: _ => c != ']' && c != '-'

/-- Reads a character, a range of characters or a set in a class. -/
def readRange (text : List Char) : Read (CharSet × List Char) := do
  let (first, rest) ← readClassItem text
  match rest with
  | [] => .error .unclosedClass
  | '-' :: rest' =>
    if opensRange rest' then
      let (last, rest) ← readClassItem rest'
      match first, last with
      | .char low, .char high =>
        if low ≤ high then .ok (.range low high, rest) else .error .reversedRange
      | _, _ => .error .rangeOfClasses
    else return (← first.toSet, rest)
  | _ => return (← first.toSet, rest)

/-- The hyphens at the start of a class, which stand for themselves, and a closing
    bracket right at the start, which does so too. -/
def leadingLiterals (text : List Char) : ClassPart × List Char :=
  match text with
  | '-' :: _ =>
    let hyphens := text.takeWhile (· == '-')
    (hyphens.foldl (fun part c => part.addSet (.char c)) .initial,
      text.dropWhile (· == '-'))
  | ']' :: rest => (ClassPart.initial.addSet (.char ']'), rest)
  | _ => (.initial, text)

/-- Whether a class is negated, and what stands before its first item. -/
def openClass (text : List Char) : Bool × ClassPart × List Char :=
  match text with
  | '^' :: rest => (true, leadingLiterals rest)
  | _ => (false, leadingLiterals text)

/-- The set of a class whose items have been read. -/
def closeClass (flags : Flags) (negated : Bool) (inner : NestedSet) : NestedSet :=
  ⟨flags.close negated inner.set, inner.depth + 1⟩

/-- Reads the items of a class up to its closing bracket, and a nested class by itself. -/
def readClass (flags : Flags) : Nat → ClassPart → List Char → Read (NestedSet × List Char)
  | 0, _, _ => .error .unclosedClass
  | fuel + 1, part, text =>
    match text with
    | [] => .error .unclosedClass
    | ']' :: rest => .ok (part.value flags, rest)
    | '&' :: '&' :: rest => readClass flags fuel (part.next flags .inter) rest
    | '-' :: '-' :: rest => readClass flags fuel (part.next flags .diff) rest
    | '~' :: '~' :: rest => readClass flags fuel (part.next flags .symmDiff) rest
    | '[' :: rest =>
      match readNamed? flags rest with
      | some (set, rest) => readClass flags fuel (part.addSet set) rest
      | none => do
        let (negated, inner, rest) := openClass rest
        let (inner, rest) ← readClass flags fuel inner rest
        readClass flags fuel (part.add (closeClass flags negated inner)) rest
    | text => do
      let (set, rest) ← readRange text
      readClass flags fuel (part.addSet set) rest

/-- Reads a class after its bracket. -/
def readWholeClass (flags : Flags) (text : List Char) : Read (NestedSet × List Char) := do
  let (negated, part, rest) := openClass text
  let (inner, rest) ← readClass flags (text.length + 1) part rest
  return (closeClass flags negated inner, rest)

end Pattern

end ProgramImage
