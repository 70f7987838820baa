/-!
# Sets of code points by their boundaries

A set of code points is written as the increasing list of the places where
membership changes, starting outside: `[48, 58]` holds 48 to 57. `Ranges.contains`
reads such a list, and stops at the first boundary above its argument. Two sets are
combined by going through both lists at once.
-/

namespace ProgramImage

namespace Text

/-- A set of code points, as the increasing list of places where membership
    changes. -/
structure Ranges where
  boundaries : List Nat
  deriving DecidableEq, Repr

/-- Membership after passing every boundary that is not above `c`, where
    `inside` is the membership before them. -/
def Ranges.containsFrom (c : Nat) : Bool → List Nat → Bool
  | inside, [] => inside
  | inside, boundary :: rest =>
    if c < boundary then inside else containsFrom c (!inside) rest

/-- Whether a code point belongs to the set. -/
def Ranges.containsCode (ranges : Ranges) (c : Nat) : Bool :=
  Ranges.containsFrom c false ranges.boundaries

def Ranges.contains (ranges : Ranges) (c : Char) : Bool :=
  ranges.containsCode c.toNat

namespace Ranges

/-- The code points from `low` to `high`. -/
def interval (low high : Nat) : Ranges :=
  if low ≤ high then ⟨[low, high + 1]⟩ else ⟨[]⟩

/-- Puts a place in front of boundaries if membership changes there. -/
def mark (place : Nat) (before after : Bool) (rest : List Nat) : List Nat :=
  if before == after then rest else place :: rest

/-- The boundaries of a combination of two sets, where membership before them is `x`
    and `y`. The fuel bounds the number of boundaries. -/
def combineFrom (op : Bool → Bool → Bool) : Nat → Bool → Bool → List Nat → List Nat → List Nat
  | 0, _, _, _, _ => []
  | _ + 1, _, _, [], [] => []
  | fuel + 1, x, y, a :: as, [] =>
    mark a (op x y) (op (!x) y) (combineFrom op fuel (!x) y as [])
  | fuel + 1, x, y, [], b :: bs =>
    mark b (op x y) (op x (!y)) (combineFrom op fuel x (!y) [] bs)
  | fuel + 1, x, y, a :: as, b :: bs =>
    if a < b then mark a (op x y) (op (!x) y) (combineFrom op fuel (!x) y as (b :: bs))
    else if b < a then mark b (op x y) (op x (!y)) (combineFrom op fuel x (!y) (a :: as) bs)
    else mark a (op x y) (op (!x) (!y)) (combineFrom op fuel (!x) (!y) as bs)

/-- The code points whose membership in two sets is related by an operation, which has
    to leave out what is in neither. -/
def combine (op : Bool → Bool → Bool) (first second : Ranges) : Ranges :=
  ⟨combineFrom op (first.boundaries.length + second.boundaries.length) false false
    first.boundaries second.boundaries⟩

/-- Code points in one of two sets. -/
def union : Ranges → Ranges → Ranges :=
  combine (· || ·)

/-- Code points in both of two sets. -/
def inter : Ranges → Ranges → Ranges :=
  combine (· && ·)

/-- Code points of the first set that are not in the second. -/
def diff : Ranges → Ranges → Ranges :=
  combine (fun first second => first && !second)

/-- The code points of a list. -/
def ofCodes (codes : List Nat) : Ranges :=
  codes.foldl (fun ranges c => ranges.union (interval c c)) ⟨[]⟩

/-- The code points that are characters: all but the surrogates. -/
def characters : Ranges :=
  ⟨[0, 0xD800, 0xE000, 0x110000]⟩

/-- The runs of a list of boundaries, each with its first and its last code point. -/
def runsOf : List Nat → List (Nat × Nat)
  | low :: next :: rest => (low, next - 1) :: runsOf rest
  | _ => []

/-- The runs of neighbouring code points in a set. -/
def runs (ranges : Ranges) : List (Nat × Nat) :=
  runsOf ranges.boundaries

end Ranges

end Text

end ProgramImage
