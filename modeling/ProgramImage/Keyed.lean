/-!
# Lists in the order of their keys

A mapping is kept as a list of keys and values in increasing order of the keys, so
that two mappings with the same content are the same list. `KeyOrder` says for a type
of keys which of two comes first; texts are in the order of their code points.
-/

namespace ProgramImage

/-- A type whose values serve as keys. -/
class KeyOrder (κ : Type) where
  /-- Whether the first key stands before the second. -/
  before : κ → κ → Bool

/-- Whether one text stands before another by the first code point that differs. -/
def charsBefore : List Char → List Char → Bool
  | _, [] => false
  | [], _ :: _ => true
  | a :: as, b :: bs => a.toNat < b.toNat || (a == b && charsBefore as bs)

instance : KeyOrder String where
  before s t := charsBefore s.toList t.toList

namespace Keyed

variable {κ α : Type}

/-- Puts a value under a key. A value that the key has already is replaced. -/
def insert [DecidableEq κ] [KeyOrder κ] (key : κ) (value : α) : List (κ × α) → List (κ × α)
  | [] => [(key, value)]
  | (key', value') :: rest =>
    if key = key' then (key, value) :: rest
    else if KeyOrder.before key key' then (key, value) :: (key', value') :: rest
    else (key', value') :: insert key value rest

/-- The mapping with the given entries, of which later ones replace earlier ones. -/
def ofList [DecidableEq κ] [KeyOrder κ] (entries : List (κ × α)) : List (κ × α) :=
  entries.foldl (fun mapping (key, value) => insert key value mapping) []

def get? [DecidableEq κ] (key : κ) (mapping : List (κ × α)) : Option α :=
  (mapping.find? fun entry => entry.1 = key).map fun entry => entry.2

end Keyed

end ProgramImage
