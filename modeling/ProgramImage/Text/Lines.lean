/-!
# Lines of a text

A line ends at a line feed or at the end of the text. A carriage return in front of
the line feed belongs to the end of the line. There is no line behind the last line
feed.
-/

namespace ProgramImage

namespace Text

/-- A line without the carriage return that ends it, given the line in reverse. -/
def finishLine : List Char → List Char
  | '\r' :: line => line.reverse
  | line => line.reverse

/-- The lines of a text, where `line` is the start of the first one in reverse. -/
def linesFrom (line : List Char) : List Char → List (List Char)
  | [] => if line.isEmpty then [] else [line.reverse]
  | '\n' :: rest => finishLine line :: linesFrom [] rest
  | c :: rest => linesFrom (c :: line) rest

/-- The lines of a text. -/
def lines (text : String) : List String :=
  (linesFrom [] text.toList).map String.ofList

end Text

end ProgramImage
