import ProgramImage.Text.Ranges

/-!
# White space

`isBlank` is the White_Space property of the Unicode character database. It is
what may surround a number on the command line, and what the pattern language
calls a space. `trim` drops it from both ends of a text.
-/

namespace ProgramImage

namespace Text

/-- Code points with the White_Space property. -/
def blank : Ranges :=
  ⟨[9, 14, 32, 33, 133, 134, 160, 161, 5760, 5761, 8192, 8203, 8232, 8234, 8239, 8240, 8287,
    8288, 12288, 12289]⟩

/-- Whether a character is white space. -/
def isBlank (c : Char) : Bool :=
  blank.contains c

/-- A text without the white space at its two ends. -/
def trim (text : List Char) : List Char :=
  ((text.dropWhile isBlank).reverse.dropWhile isBlank).reverse

end Text

end ProgramImage
