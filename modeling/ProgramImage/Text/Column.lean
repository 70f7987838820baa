/-!
# Columns of a table

A cell is filled up with blanks to the width of its column. A cell that is wider than
its column stays as it is.
-/

namespace ProgramImage

namespace Text

/-- The blanks that fill a cell up to a width. -/
def filler (width : Nat) (cell : String) : String :=
  String.ofList (List.replicate (width - cell.length) ' ')

/-- A cell at the left of its column. -/
def padRight (width : Nat) (cell : String) : String :=
  cell ++ filler width cell

/-- A cell at the right of its column. -/
def padLeft (width : Nat) (cell : String) : String :=
  filler width cell ++ cell

end Text

end ProgramImage
