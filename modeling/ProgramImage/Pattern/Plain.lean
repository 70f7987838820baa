import ProgramImage.Pattern.Syntax

/-!
# Patterns written out

A plain pattern has neither groups nor counts. `Pattern.plain` gives the plain pattern
that matches the same stretches. The items of a sequence make a balanced tree, and so do
the copies of a counted part. Equal halves of copies are one value, so that writing out
a count costs no more than its digits.
-/

namespace ProgramImage

/-- A pattern without groups and counts. -/
inductive PlainPattern where
  | empty
  | one (set : CharSet)
  | assertion (condition : Assertion)
  | seq (first second : PlainPattern)
  | alt (first second : PlainPattern)
  /-- One stretch or more, one after the other. -/
  | plus (body : PlainPattern)
  /-- Copies of a part, of which the first and any number of the next ones match one after
      the other. -/
  | chain (first second : PlainPattern)
  deriving Repr, Inhabited

namespace PlainPattern

/-- Patterns in a row, as two halves. The fuel bounds the number of halvings. -/
def rowFrom : Nat → List PlainPattern → PlainPattern
  | _, [] => empty
  | _, [pattern] => pattern
  | 0, first :: _ => first
  | fuel + 1, patterns =>
    let half := patterns.length / 2
    seq (rowFrom fuel (patterns.take half)) (rowFrom fuel (patterns.drop half))

/-- Patterns in a row. -/
def row (patterns : List PlainPattern) : PlainPattern :=
  rowFrom patterns.length patterns

/-- A number of copies, as two halves and perhaps one copy more. The fuel bounds the
    number of halvings. -/
def copies (join : PlainPattern → PlainPattern → PlainPattern) (body : PlainPattern) :
    Nat → Nat → PlainPattern
  | 0, _ => empty
  | fuel + 1, count =>
    if count = 0 then empty
    else if count = 1 then body
    else
      let half := copies join body fuel (count / 2)
      if count % 2 = 0 then join half half else join body (join half half)

/-- A number of stretches, one after the other. -/
def times (body : PlainPattern) (count : Nat) : PlainPattern :=
  copies seq body (count.log2 + 1) count

/-- No stretch, or up to a number of them, one after the other. -/
def upTo (body : PlainPattern) (count : Nat) : PlainPattern :=
  alt (copies chain body (count.log2 + 1) count) empty

/-- As many stretches as the bounds allow: those that have to be there, and further ones.
    Without an upper bound the last stretch stands for those behind it, too. -/
def repeated (body : PlainPattern) (least : Nat) : Option Nat → PlainPattern
  | none =>
    if least = 0 then alt (plus body) empty
    else if least = 1 then plus body
    else seq (times body (least - 1)) (plus body)
  | some most =>
    if most ≤ least then times body least
    else if least = 0 then upTo body most
    else seq (times body least) (upTo body (most - least))

end PlainPattern

namespace Pattern

/-- Whether a pattern matches the empty stretch at most. -/
def isEmptyOnly : Pattern → Bool
  | empty | assertion _ => true
  | one _ => false
  | seq first second | alt first second => first.isEmptyOnly && second.isEmptyOnly
  | group _ body => body.isEmptyOnly
  | repeated body _ most _ => body.isEmptyOnly || most == some 0

/-- The items of a sequence without groups and counts. One empty stretch is as good as
    many. -/
def plainItems : Pattern → List PlainPattern
  | empty => []
  | one set => [.one set]
  | assertion condition => [.assertion condition]
  | seq first second => first.plainItems ++ second.plainItems
  | alt first second => [.alt (.row first.plainItems) (.row second.plainItems)]
  | group _ body => body.plainItems
  | repeated body least most _ =>
    let plain := PlainPattern.row body.plainItems
    [if body.isEmptyOnly then plain.repeated (min least 1) (some (min (most.getD 1) 1))
      else plain.repeated least most]

/-- The pattern without groups and counts. -/
def plain (pattern : Pattern) : PlainPattern :=
  .row pattern.plainItems

end Pattern

end ProgramImage
