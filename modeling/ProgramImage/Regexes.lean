import ProgramImage.Index
import ProgramImage.Text.Quoted

/-!
# Regular expressions of a program

A literal of a program refers to a regular expression by a text, and a type may have
one that its values have to match. Both kinds stand in one table, in the order in
which they were added. The first entry for a text or for a type is kept, and what is
added later for the same text or type is passed over.

The language in which the patterns are written is up to the caller. A table only asks
whether a text is a pattern, and whether a pattern matches.
-/

namespace ProgramImage

/-- A language of patterns. A text means the same pattern wherever it occurs. -/
structure PatternLanguage where
  /-- Accepts a text as a pattern, or says in words what is wrong with it. -/
  check : String → Except String Unit
  /-- Whether a pattern, which comes first, matches some stretch of a text. -/
  matchesIn : String → String → Bool

/-- The number of an entry in the table of regular expressions. -/
structure RegexId where
  value : Nat
  deriving DecidableEq, Repr

namespace RegexId

/-- The number of the entry at a place. Numbers have 32 bits. -/
def ofPlace (place : Nat) : RegexId :=
  ⟨place % idCount⟩

theorem value_ofPlace_lt (place : Nat) : (ofPlace place).value < idCount :=
  Nat.mod_lt _ (by decide)

/-- The first 2^32 entries are numbered by their places. -/
theorem value_ofPlace_of_lt {place : Nat} (h : place < idCount) : (ofPlace place).value = place :=
  Nat.mod_eq_of_lt h

def text (id : RegexId) : String :=
  "#" ++ toString id.value

end RegexId

/-- Why an entry cannot be added. -/
inductive RegexError where
  /-- The pattern of an entry has a fault, which is given in words. -/
  | invalidPattern (text fault : String)
  deriving DecidableEq, Repr

def RegexError.message : RegexError → String
  | invalidPattern text fault => "invalid regex " ++ Text.quote text ++ ": " ++ fault

/-- A regular expression. -/
structure Regex where
  /-- The text by which literals refer to it. -/
  text : String
  /-- The pattern as it was compiled. -/
  source : String
  deriving DecidableEq, Repr

namespace Regex

/-- A pattern between anchors, so that it has to match a whole text. -/
def anchored (pattern : String) : String :=
  "^(?:" ++ pattern ++ ")$"

/-- Compiles a regular expression. -/
def compile (patterns : PatternLanguage) (text pattern : String) : Except RegexError Regex :=
  match patterns.check (anchored pattern) with
  | .ok () => .ok ⟨text, anchored pattern⟩
  | .error fault => .error (.invalidPattern text fault)

/-- Whether a text matches. -/
def isMatch (patterns : PatternLanguage) (regex : Regex) (text : String) : Bool :=
  patterns.matchesIn regex.source text

end Regex

/-- What an entry is for. -/
inductive RegexRole where
  /-- Literals that refer to it by its text. -/
  | literal
  /-- The values of a type. -/
  | validator (tid : TypeId)
  deriving DecidableEq, Repr

/-- An entry of the table. -/
structure RegexEntry where
  role : RegexRole
  regex : Regex
  deriving DecidableEq, Repr

/-- Whether literals with a text refer to an entry. -/
def RegexEntry.hasText (text : String) (entry : RegexEntry) : Bool :=
  entry.role == .literal && entry.regex.text == text

/-- Whether an entry is for the values of a type. -/
def RegexEntry.validates (tid : TypeId) (entry : RegexEntry) : Bool :=
  entry.role == .validator tid

/-- The regular expressions of a program. -/
structure RegexTable where
  entries : List RegexEntry
  deriving DecidableEq, Repr

namespace RegexTable

def empty : RegexTable := ⟨[]⟩

def size (table : RegexTable) : Nat :=
  table.entries.length

def get? (table : RegexTable) (id : RegexId) : Option Regex :=
  (table.entries[id.value]?).map RegexEntry.regex

/-- The number of the first entry that passes a test. -/
def find? (table : RegexTable) (test : RegexEntry → Bool) : Option RegexId :=
  (table.entries.findIdx? test).map RegexId.ofPlace

def lookup (table : RegexTable) (text : String) : Option RegexId :=
  table.find? (RegexEntry.hasText text)

/-- The number of the entry for the values of a type. -/
def validatorId? (table : RegexTable) (tid : TypeId) : Option RegexId :=
  table.find? (RegexEntry.validates tid)

/-- The regular expression for the values of a type. -/
def validator? (table : RegexTable) (tid : TypeId) : Option Regex :=
  (table.validatorId? tid).bind table.get?

/-- Whether a text matches the regular expression for a type, if the type has one. -/
def validate (patterns : PatternLanguage) (table : RegexTable) (tid : TypeId) (text : String) :
    Option Bool :=
  (table.validator? tid).map fun regex => regex.isMatch patterns text

/-- The number of types that have a regular expression. -/
def validatorCount (table : RegexTable) : Nat :=
  table.entries.countP fun entry => entry.role != .literal

/-- The types that have a regular expression, each with its own, in the order of the
    types. -/
def validators (table : RegexTable) : List (TypeId × Regex) :=
  Keyed.ofList <| table.entries.filterMap fun entry =>
    match entry.role with
    | .literal => none
    | .validator tid => (table.validator? tid).map fun regex => (tid, regex)

def push (table : RegexTable) (role : RegexRole) (regex : Regex) : RegexId × RegexTable :=
  (.ofPlace table.size, ⟨table.entries ++ [⟨role, regex⟩]⟩)

/-- Adds a regular expression for literals, unless its text has one. -/
def insert (patterns : PatternLanguage) (table : RegexTable) (text pattern : String) :
    Except RegexError (RegexId × RegexTable) :=
  match table.lookup text with
  | some id => .ok (id, table)
  | none => (Regex.compile patterns text pattern).map (table.push .literal)

/-- Adds a regular expression for a type, unless the type has one. -/
def addValidator (patterns : PatternLanguage) (table : RegexTable) (tid : TypeId)
    (text pattern : String) : Except RegexError (RegexId × RegexTable) :=
  match table.validatorId? tid with
  | some id => .ok (id, table)
  | none => (Regex.compile patterns text pattern).map (table.push (.validator tid))

end RegexTable

end ProgramImage
