import ProgramImage.Pattern.Syntax

/-!
# Sets of characters as bytes

The characters of a run are spelled by few sequences of byte ranges, such as the bytes
`E1` to `EC` with two bytes `80` to `BF` behind them. `Spelling.ofRanges` gives these
sequences in order for a set of code points.
-/

namespace ProgramImage

/-- The code points of a set of characters. -/
def CharSet.ranges : CharSet → Text.Ranges
  | none => ⟨[]⟩
  | char c => .interval c.toNat c.toNat
  | range low high => .interval low.toNat high.toNat
  | digit => Pattern.digit
  | space => Text.blank
  | word => Pattern.word
  | union first second => first.ranges.union second.ranges
  | inter first second => first.ranges.inter second.ranges
  | compl set => Text.Ranges.characters.diff set.ranges
  | foldCase (char c) => .ofCodes ((Pattern.sameCase c).map Char.toNat)
  | foldCase set => Pattern.closeCase set.ranges

/-- A sequence of byte ranges, each with its first and its last byte. -/
abbrev Spelling := List (Nat × Nat)

namespace Spelling

/-- The sequences for the code points from `low` to `high` with a number of continuation
    bytes. `lead` is added to the leading digit, which has more than six bits. -/
def ofInterval (lead : Nat) : Nat → Nat → Nat → List Spelling
  | 0, low, high => [[(lead + low, lead + high)]]
  | tails + 1, low, high =>
    let block := Nat.pow 64 (tails + 1)
    let first := low / block
    let last := high / block
    let start := low % block
    let stop := high % block
    let behind (digit start stop : Nat) : List Spelling :=
      (ofInterval 0x80 tails start stop).map ((lead + digit, lead + digit) :: ·)
    if first = last then behind first start stop
    else
      let whole := if start = 0 then first else first + 1
      let upTo := if stop + 1 = block then last + 1 else last
      (if start = 0 then [] else behind first start (block - 1)) ++
        (if whole < upTo then
          [(lead + whole, lead + (upTo - 1)) :: List.replicate (tails + 1) (0x80, 0xBF)]
        else []) ++
        (if stop + 1 = block then [] else behind last 0 stop)

/-- The lengths of characters in bytes: the first and the last code point, what is added
    to the leading byte, and the number of continuation bytes. -/
def lengths : List (Nat × Nat × Nat × Nat) :=
  [(0, 0x7F, 0, 0), (0x80, 0x7FF, 0xC0, 1), (0x800, 0xFFFF, 0xE0, 2),
   (0x10000, 0x10FFFF, 0xF0, 3)]

/-- The sequences for one run of code points. -/
def ofRun (low high : Nat) : List Spelling :=
  lengths.flatMap fun (from_, upTo, lead, tails) =>
    if max low from_ ≤ min high upTo then
      ofInterval lead tails (max low from_) (min high upTo)
    else []

/-- The sequences for a set of code points. -/
def ofRanges (ranges : Text.Ranges) : List Spelling :=
  (ranges.inter .characters).runs.flatMap fun (low, high) => ofRun low high

/-- Sequences in order, those with one first byte range together. -/
def groups (spellings : List Spelling) : List (List Spelling) :=
  spellings.splitBy fun a b => a.head? == b.head?

end Spelling

end ProgramImage
