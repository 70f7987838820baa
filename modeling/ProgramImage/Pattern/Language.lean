import ProgramImage.Pattern.Match
import ProgramImage.Pattern.Parser
import ProgramImage.Regexes

/-!
# Basic patterns

Tables of regular expressions and loads take any language of patterns. The commands load
programs with that of `Pattern.parse`, which this module offers as one of them.
-/

namespace ProgramImage

/-- The language of `Pattern.parse`. -/
def PatternLanguage.basic : PatternLanguage where
  check text :=
    match Pattern.parse text with
    | .ok _ => .ok ()
    | .error error => .error error.message
  matchesIn source text :=
    match Pattern.parse source with
    | .ok pattern => pattern.matchesIn text
    | .error _ => false

end ProgramImage
