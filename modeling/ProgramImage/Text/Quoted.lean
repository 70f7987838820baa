import ProgramImage.Text.Escaped
import ProgramImage.Text.Hex

/-!
# Quoted text

Diagnostics show names and literals between quotation marks, so that a blank, a
line break or an invisible character can be told apart. `quote` writes a text
between double marks and `quoteChar` a character between single ones; each
escapes its own mark and leaves the other alone.
-/

namespace ProgramImage

namespace Text

/-- The spelling of a character inside a quotation that ends at `mark`. -/
def escapeChar (mark c : Char) : List Char :=
  if c = '\x00' then ['\\', '0']
  else if c = '\t' then ['\\', 't']
  else if c = '\n' then ['\\', 'n']
  else if c = '\r' then ['\\', 'r']
  else if c = '\\' then ['\\', '\\']
  else if c = mark then ['\\', mark]
  else if escaped.contains c then ['\\', 'u', '\x7b'] ++ hex c.toNat ++ ['\x7d']
  else [c]

/-- A text between double quotation marks. -/
def quote (text : String) : String :=
  String.ofList ('"' :: text.toList.flatMap (escapeChar '"') ++ ['"'])

/-- A character between single quotation marks. -/
def quoteChar (c : Char) : String :=
  String.ofList ('\'' :: escapeChar '\'' c ++ ['\''])

end Text

end ProgramImage
