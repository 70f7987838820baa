import ProgramImage.Text.Utf8

/-!
# Literals that share their beginnings

Alternatives that are all literals are read together: those with the same first byte
share the state behind it, and so on. A literal that ends where others go on is
preferred to literals behind it, and these share no state with literals before it.

`LiteralTrie.states` and `LiteralTrie.moves` count the states that read such literals
and what leads out of them.
-/

namespace ProgramImage

namespace LiteralTrie

/-- Byte strings in order, as what is left of literals. -/
abbrev Rests := List (List UInt8)

/-- Whether nothing is left of any literal. -/
def isDone (rests : Rests) : Bool :=
  rests.all List.isEmpty

/-- Puts a rest in front of the first of some sections, or the end of a literal between
    it and a section before. -/
def addToSections (rest : List UInt8) (sections : List Rests) : List Rests :=
  match rest, sections with
  | [], sections => [] :: sections
  | rest, first :: sections => (rest :: first) :: sections
  | rest, [] => [[rest]]

/-- The sections between the ends of literals. Ends before all else count once. -/
def sections (rests : Rests) : List Rests :=
  let others := rests.dropWhile List.isEmpty
  let behind := others.foldr addToSections [[]]
  if rests.head? = some [] then [] :: behind else behind

/-- The first bytes of a section. -/
def firsts (rests : Rests) : List UInt8 :=
  (rests.filterMap List.head?).eraseDups

/-- What is left of the literals of a section behind a first byte. -/
def behind (first : UInt8) (rests : Rests) : Rests :=
  rests.filterMap fun rest => if rest.head? = some first then some rest.tail else none

/-- What literals take in an automaton. -/
structure Count where
  states : Nat
  /-- The byte ranges that lead out of states with more than one. -/
  moves : Nat
  /-- The branches of choices. -/
  branches : Nat

/-- Two counts together. -/
def Count.add (first second : Count) : Count :=
  ⟨first.states + second.states, first.moves + second.moves, first.branches + second.branches⟩

/-- What one section takes besides what follows it: a state that reads a byte, as a
    branch. -/
def Count.ofSection (rests : Rests) : Count :=
  match (firsts rests).length with
  | 0 => ⟨0, 0, 0⟩
  | 1 => ⟨1, 0, 1⟩
  | moves => ⟨1, moves, 1⟩

/-- What the rests of literals take: a choice between their sections and the ends between
    them, and what follows each first byte. The fuel bounds their length. -/
def count : Nat → Rests → Count
  | 0, _ => ⟨0, 0, 0⟩
  | fuel + 1, rests =>
    let parts := sections rests
    parts.foldl (fun total part =>
      (firsts part).foldl (fun total first =>
        let rests := behind first part
        if isDone rests then total else total.add (count fuel rests))
      (total.add (.ofSection part)))
      ⟨1, 0, parts.length - 1⟩

end LiteralTrie

/-- What alternatives that are all literals take in an automaton that reads them in the
    order of their bytes: the states before their common end, and that end. -/
def LiteralTrie.ofLiterals (literals : List (List UInt8)) : LiteralTrie.Count :=
  let longest := literals.foldl (fun longest bytes => max longest bytes.length) 0
  (count (longest + 1) literals).add ⟨1, 0, 0⟩

end ProgramImage
