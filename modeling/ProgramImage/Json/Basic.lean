import ProgramImage.Keyed
import ProgramImage.Number.DoubleText

/-!
# JSON values

A number is whole, with at most sixty-four bits, or a floating-point number. The
members of an object are kept in the order of their keys, each key once;
`Json.ofMembers` brings them into this form.
-/

namespace ProgramImage

/-- A JSON number. -/
inductive Number where
  | int (value : Int)
  | float (value : Double)
  deriving DecidableEq, Repr, Inhabited

/-- A JSON value. -/
inductive Json where
  | null
  | bool (value : Bool)
  | number (value : Number)
  | string (value : String)
  | array (items : List Json)
  | object (members : List (String × Json))
  deriving Repr, Inhabited

namespace Json

/-- The object with the given members, of which later ones replace earlier ones. -/
def ofMembers (members : List (String × Json)) : Json :=
  object (Keyed.ofList members)

/-- A natural number. -/
def ofNat (n : Nat) : Json :=
  number (.int n)

/-- An array of texts. -/
def ofStrings (texts : List String) : Json :=
  array (texts.map string)

/-- A value that may be absent. -/
def ofOption {α : Type} (f : α → Json) : Option α → Json
  | none => null
  | some a => f a

end Json

end ProgramImage
