import ProgramImage.Pattern.Spelling
import ProgramImage.Text.Utf8

/-!
# The normal form of a pattern

Automata are built from patterns in which like parts have been drawn together:
characters in a row are one literal, alternatives that are all characters or all sets
are one set, and what all alternatives begin with stands once, before them. Sequences
and choices are lists without sequences and choices as items. `NormalForm.ofPattern`
brings a pattern into this form.
-/

namespace ProgramImage

/-- A pattern in normal form. -/
inductive NormalForm where
  | empty
  /-- Characters in a row, at least one. -/
  | literal (chars : List Char)
  /-- A set of no character, or of two at least. -/
  | anyOf (ranges : Text.Ranges)
  | assertion (condition : Assertion)
  /-- A group whose stretch is kept. -/
  | kept (body : NormalForm)
  | repeated (body : NormalForm) (least : Nat) (most : Option Nat) (isLazy : Bool)
  | seq (items : List NormalForm)
  | choice (branches : List NormalForm)
  deriving Repr, Inhabited

namespace NormalForm

/-! ### Lengths -/

mutual

/-- The fewest characters of a match, unknown when a part cannot match. -/
def shortest? : NormalForm → Option Nat
  | empty | assertion _ => some 0
  | literal chars => some chars.length
  | anyOf ranges => if ranges.boundaries.isEmpty then none else some 1
  | kept body => body.shortest?
  | repeated body least _ _ => body.shortest?.map (least * ·)
  | seq items => shortestTotal? items
  | choice branches => shortestOf? branches

/-- The fewest characters of a match of all patterns in a row. -/
def shortestTotal? : List NormalForm → Option Nat
  | [] => some 0
  | item :: rest =>
    match item.shortest?, shortestTotal? rest with
    | some m, some n => some (m + n)
    | _, _ => none

/-- The fewest characters of a match of one of the patterns. -/
def shortestOf? : List NormalForm → Option Nat
  | [] => none
  | [branch] => branch.shortest?
  | branch :: rest =>
    match branch.shortest?, shortestOf? rest with
    | some m, some n => some (min m n)
    | _, _ => none

end

mutual

/-- The most characters of a match, unknown when there is no bound or a part cannot
    match. -/
def longest? : NormalForm → Option Nat
  | empty | assertion _ => some 0
  | literal chars => some chars.length
  | anyOf ranges => if ranges.boundaries.isEmpty then none else some 1
  | kept body => body.longest?
  | repeated body _ most _ =>
    match body.longest?, most with
    | some n, some most => some (most * n)
    | _, _ => none
  | seq items => longestTotal? items
  | choice branches => longestOf? branches

/-- The most characters of a match of all patterns in a row. -/
def longestTotal? : List NormalForm → Option Nat
  | [] => some 0
  | item :: rest =>
    match item.longest?, longestTotal? rest with
    | some m, some n => some (m + n)
    | _, _ => none

/-- The most characters of a match of one of the patterns. -/
def longestOf? : List NormalForm → Option Nat
  | [] => none
  | [branch] => branch.longest?
  | branch :: rest =>
    match branch.longest?, longestOf? rest with
    | some m, some n => some (max m n)
    | _, _ => none

end

/-- Whether a pattern never matches the empty stretch. -/
def isNeverEmpty (form : NormalForm) : Bool :=
  form.shortest?.any (· != 0)

/-- Whether a pattern matches the empty stretch at most. -/
def isEmptyOnly (form : NormalForm) : Bool :=
  form.longest? == some 0

/-! ### Equal parts -/

mutual

/-- Whether two parts can stand for each other. Groups that are kept are never the same. -/
def same : NormalForm → NormalForm → Bool
  | empty, empty => true
  | literal first, literal second => first == second
  | anyOf first, anyOf second => first == second
  | assertion first, assertion second => first == second
  | repeated first least most isLazy, repeated second least' most' isLazy' =>
    least == least' && most == most' && isLazy == isLazy' && first.same second
  | seq first, seq second => sameAll first second
  | choice first, choice second => sameAll first second
  | _, _ => false

/-- Whether the parts of two lists can stand for each other. -/
def sameAll : List NormalForm → List NormalForm → Bool
  | [], [] => true
  | first :: rest, second :: others => first.same second && sameAll rest others
  | _, _ => false

end

/-- The number of items that two sequences have in common at their start. -/
def common : List NormalForm → List NormalForm → Nat
  | first :: rest, second :: others => if first.same second then common rest others + 1 else 0
  | _, _ => 0

/-! ### Sets and literals -/

/-- The pattern of one character of a set. -/
def ofRanges (ranges : Text.Ranges) : NormalForm :=
  match ranges.runs with
  | [(low, high)] => if low = high then literal [Char.ofNat low] else anyOf ranges
  | _ => anyOf ranges

/-- The character of a literal that has one only. -/
def single? : NormalForm → Option Char
  | literal [c] => some c
  | _ => none

/-- The code points of a set. -/
def ranges? : NormalForm → Option Text.Ranges
  | anyOf ranges => some ranges
  | _ => none

/-- The characters of a literal. -/
def chars? : NormalForm → Option (List Char)
  | literal chars => some chars
  | _ => none

/-! ### Sequences -/

/-- The items of a pattern in a sequence. -/
def items : NormalForm → List NormalForm
  | empty => []
  | seq items => items
  | form => [form]

/-- Items in a row, where literals that meet become one. -/
def joinItems : List NormalForm → List NormalForm → List NormalForm
  | [], others => others
  | [literal first], literal second :: others => literal (first ++ second) :: others
  | first :: rest, others => first :: joinItems rest others

/-- The pattern of items in a sequence. -/
def ofItems : List NormalForm → NormalForm
  | [] => empty
  | [form] => form
  | items => seq items

/-- Two patterns, one after the other. -/
def append (first second : NormalForm) : NormalForm :=
  ofItems (joinItems first.items second.items)

/-! ### Choices -/

/-- The branches of a pattern in a choice. -/
def branches : NormalForm → List NormalForm
  | choice branches => branches
  | form => [form]

/-- The one pattern for branches that are all characters or all sets, or that are not
    more than one. -/
def joined? : List NormalForm → Option NormalForm
  | [form] => some form
  | forms =>
    match forms.mapM single? with
    | some chars => some (ofRanges (.ofCodes (chars.map Char.toNat)))
    | none => (forms.mapM ranges?).map fun sets => ofRanges (sets.foldl .union ⟨[]⟩)

/-- One of some patterns, whatever they begin with. -/
def oneOf (forms : List NormalForm) : NormalForm :=
  let forms := forms.flatMap branches
  (joined? forms).getD (choice forms)

/-- The items of a sequence of at least two. -/
def sequence? : NormalForm → Option (List NormalForm)
  | seq items => some items
  | _ => none

/-- The number of items that all sequences begin with. -/
def commonToAll : List (List NormalForm) → Nat
  | [] => 0
  | first :: others =>
    others.foldl (fun count items => min count (common first items)) first.length

/-- One of some patterns. What all of them begin with stands once, before the choice of
    what follows it. -/
def alternatives (forms : List NormalForm) : NormalForm :=
  let forms := forms.flatMap branches
  match joined? forms with
  | some form => form
  | none =>
    match forms.mapM sequence? with
    | none => choice forms
    | some sequences =>
      match sequences, commonToAll sequences with
      | first :: _, count + 1 =>
        append (ofItems (first.take (count + 1)))
          (oneOf (sequences.map fun items => ofItems (items.drop (count + 1))))
      | _, _ => choice forms

/-! ### Repetitions -/

/-- A repetition. Of what is empty, one stretch is as good as many. -/
def repetition (body : NormalForm) (least : Nat) (most : Option Nat) (isLazy : Bool) :
    NormalForm :=
  let (least, most) :=
    if body.isEmptyOnly then (min least 1, some (min (most.getD 1) 1)) else (least, most)
  if most = some 0 then empty
  else if least = 1 ∧ most = some 1 then body
  else repeated body least most isLazy

/-! ### Patterns -/

/-- The normal forms of the alternatives of a pattern. -/
def ofBranches : Pattern → List NormalForm
  | .empty => [empty]
  | .one set => [ofRanges (set.ranges.inter .characters)]
  | .assertion condition => [assertion condition]
  | .seq first second =>
    [append (alternatives (ofBranches first)) (alternatives (ofBranches second))]
  | .alt first second => ofBranches first ++ ofBranches second
  | .group isKept body =>
    let form := alternatives (ofBranches body)
    [if isKept then kept form else form]
  | .repeated body least most isLazy =>
    [repetition (alternatives (ofBranches body)) least most isLazy]

/-- The normal form of a pattern. -/
def ofPattern (pattern : Pattern) : NormalForm :=
  alternatives (ofBranches pattern)

/-! ### Anchors -/

mutual

/-- Whether every match begins at the start of the text. -/
def beginsAtStart : NormalForm → Bool
  | assertion condition => condition == .textStart
  | kept body => body.beginsAtStart
  | repeated body least _ _ => least != 0 && body.beginsAtStart
  | seq items => anyBeginsAtStart items
  | choice branches => allBeginAtStart branches
  | _ => false

/-- Whether one of the items before the first character asks for the start of the text. -/
def anyBeginsAtStart : List NormalForm → Bool
  | [] => false
  | item :: rest => item.beginsAtStart || (item.isEmptyOnly && anyBeginsAtStart rest)

/-- Whether all branches begin at the start of the text. -/
def allBeginAtStart : List NormalForm → Bool
  | [] => true
  | branch :: rest => branch.beginsAtStart && allBeginAtStart rest

end

mutual

/-- Whether every match ends at the end of the text. -/
def endsAtEnd : NormalForm → Bool
  | assertion condition => condition == .textEnd
  | kept body => body.endsAtEnd
  | repeated body least _ _ => least != 0 && body.endsAtEnd
  | seq items => anyEndsAtEnd items
  | choice branches => allEndAtEnd branches
  | _ => false

/-- Whether one of the items behind the last character asks for the end of the text. -/
def anyEndsAtEnd : List NormalForm → Bool
  | [] => false
  | item :: rest =>
    anyEndsAtEnd rest || (item.endsAtEnd && longestTotal? rest == some 0)

/-- Whether all branches end at the end of the text. -/
def allEndAtEnd : List NormalForm → Bool
  | [] => true
  | branch :: rest => branch.endsAtEnd && allEndAtEnd rest

end

end NormalForm

end ProgramImage
