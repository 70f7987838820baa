import Mathlib.Algebra.Group.Int.Defs
import ProgramImage.Proofs.LiteralValue
import ProgramImage.Reserved

/-!
# Literals of whole numbers

Four types have whole numbers as literals, with and without a sign and of two widths. One
grammar holds for all of them: a numeral and one more character, whatever it is. The digits are
taken in one after the other, and a value that leaves the range of the type is noticed at once;
since more digits never make a number smaller, that is noticed exactly when the whole numeral is
out of range. So a text is refused exactly when it is no numeral in range with one character
behind it.

## Main definitions

* `WholeType` are the four types, each with its range and its signs.
* `WholeType.IsLiteral` is the grammar of their literals.

## Main statements

* `Digits.nat_eq_some_iff` and `Digits.int_eq_some_iff` say that every numeral within its limits is
  read.
* `WholeType.parse_exactly` says what is accepted and refused.
-/

namespace ProgramImage

/-! ### Numerals within their limits -/

namespace Digits

theorem int_of_spellsInt {limit : Nat} {i : Int} {text : List Char} (h : SpellsInt text i)
    (hlow : -((limit : Int) + 1) ≤ i) (hhigh : i ≤ limit) : int 10 limit text = .ok i := by
  rcases h with ⟨n, h | ⟨digits, rfl, h⟩, rfl⟩ | ⟨digits, n, rfl, h, rfl⟩
  · have hread : unsigned 10 limit .tooLarge text = .ok n :=
      unsigned_ten_eq_ok_iff.mpr ⟨h, by omega⟩
    unfold int
    split
    · exact absurd rfl h.nonempty
    · cases h.head_isDecimal
    · cases h.head_isDecimal
    · rw [hread]
      rfl
  · have hread : unsigned 10 limit .tooLarge digits = .ok n :=
      unsigned_ten_eq_ok_iff.mpr ⟨h, by omega⟩
    change (unsigned 10 limit .tooLarge digits).map Int.ofNat = _
    rw [hread]
    rfl
  · have hread : unsigned 10 (limit + 1) .tooSmall digits = .ok n :=
      unsigned_ten_eq_ok_iff.mpr ⟨h, by omega⟩
    simp only [int, hread]
    rfl

/-- The numerals that are read as natural numbers are those within the limit. -/
theorem nat_eq_some_iff {limit n : Nat} {text : List Char} :
    (nat 10 limit text).toOption = some n ↔ SpellsNat text n ∧ n ≤ limit := by
  rw [Except.toOption_eq_some, nat_ten_eq_ok_iff]

/-- The numerals that are read as integers are those within the limits. -/
theorem int_eq_some_iff {limit : Nat} {i : Int} {text : List Char} :
    (int 10 limit text).toOption = some i ↔
      SpellsInt text i ∧ -((limit : Int) + 1) ≤ i ∧ i ≤ limit := by
  rw [Except.toOption_eq_some]
  constructor
  · intro h
    obtain ⟨hlow, hhigh, hspells⟩ := int_eq_ok h
    exact ⟨hspells, hlow, hhigh⟩
  · rintro ⟨hspells, hlow, hhigh⟩
    exact int_of_spellsInt hspells hlow hhigh

/-! ### Decimal renderings -/

/-- The decimal digits of a number stand for it. -/
theorem spells_toDigits (n : Nat) : Spells (Nat.toDigits 10 n) n :=
  spells_iff.mpr (spellsIn_toDigits (by decide) n)

theorem spells_repr (n : Nat) : Spells n.repr.toList n := by
  rw [Nat.repr_eq_ofList_toDigits, String.toList_ofList]
  exact spells_toDigits n

/-- The decimal rendering of an integer spells it. -/
theorem spellsInt_toString (i : Int) : SpellsInt (toString i).toList i := by
  cases i with
  | ofNat n => exact .inl ⟨n, .inl (spells_repr n), rfl⟩
  | negSucc n =>
    have htext : toString (Int.negSucc n) = "-" ++ (n + 1).repr := rfl
    rw [htext, String.toList_append]
    exact .inr ⟨_, n + 1, rfl, spells_repr (n + 1), rfl⟩

end Digits

/-! ### The four types -/

/-- The types of whole numbers that have literals. -/
inductive WholeType where
  | nat
  | int
  | bigNat
  | bigInt

namespace WholeType

def tid : WholeType → TypeId
  | nat => .nat
  | int => .int
  | bigNat => .bigNat
  | bigInt => .bigInt

def kind : WholeType → NumericKind
  | nat => .nat
  | int => .int
  | bigNat => .bigNat
  | bigInt => .bigInt

/-- The least value of a type. -/
def least : WholeType → Int
  | nat | bigNat => 0
  | int => -2 ^ 63
  | bigInt => -2 ^ 127

/-- The greatest value of a type. -/
def greatest : WholeType → Int
  | nat => 2 ^ 64 - 1
  | int => 2 ^ 63 - 1
  | bigNat => 2 ^ 128 - 1
  | bigInt => 2 ^ 127 - 1

/-- The literal with a value. -/
def literal (type : WholeType) (v : Int) : Literal :=
  match type with
  | nat => .nat v.toNat
  | int => .int v
  | bigNat => .bigNat v.toNat
  | bigInt => .bigInt v

/-- The numerals of a type: one or more digits, with or without a sign. The types without
    negative values have no minus sign. -/
def Spells : WholeType → List Char → Int → Prop
  | nat | bigNat => fun text v => ∃ n : Nat, Digits.SpellsNat text n ∧ v = n
  | int | bigInt => Digits.SpellsInt

/-- A numeral of a value in the range of the type, and one more character. -/
def IsLiteral (type : WholeType) (text : String) (v : Int) : Prop :=
  (∃ numeral suffix, text.toList = numeral ++ [suffix] ∧ type.Spells numeral v) ∧
    type.least ≤ v ∧ v ≤ type.greatest

/-- The reading of a numeral, by the width and the signs of its type. -/
def read (type : WholeType) (numeral : List Char) : Option Literal :=
  match type with
  | nat => (Digits.nat 10 max64 numeral).toOption.map .nat
  | int => (Digits.int 10 (max64 / 2) numeral).toOption.map .int
  | bigNat => (Digits.nat 10 max128 numeral).toOption.map .bigNat
  | bigInt => (Digits.int 10 (max128 / 2) numeral).toOption.map .bigInt

/-- A natural number is read from every numeral within the limit. -/
theorem map_nat_eq_some_iff {limit : Nat} {numeral : List Char} {make : Nat → Literal}
    {value : Literal} :
    (Digits.nat 10 limit numeral).toOption.map make = some value ↔
      ∃ v : Int, ((∃ n : Nat, Digits.SpellsNat numeral n ∧ v = n) ∧ 0 ≤ v ∧ v ≤ limit) ∧
        value = make v.toNat := by
  rw [Option.map_eq_some_iff]
  constructor
  · rintro ⟨n, hn, rfl⟩
    obtain ⟨hspells, hlimit⟩ := Digits.nat_eq_some_iff.mp hn
    exact ⟨n, ⟨⟨n, hspells, rfl⟩, by omega, by omega⟩, rfl⟩
  · rintro ⟨v, ⟨⟨n, hspells, rfl⟩, -, hlimit⟩, rfl⟩
    exact ⟨n, Digits.nat_eq_some_iff.mpr ⟨hspells, by omega⟩, rfl⟩

/-- An integer is read from every numeral within the limits. -/
theorem map_int_eq_some_iff {limit : Nat} {numeral : List Char} {make : Int → Literal}
    {value : Literal} :
    (Digits.int 10 limit numeral).toOption.map make = some value ↔
      ∃ v, (Digits.SpellsInt numeral v ∧ -((limit : Int) + 1) ≤ v ∧ v ≤ limit) ∧
        value = make v := by
  rw [Option.map_eq_some_iff]
  constructor
  · rintro ⟨v, hv, rfl⟩
    exact ⟨v, Digits.int_eq_some_iff.mp hv, rfl⟩
  · rintro ⟨v, hv, rfl⟩
    exact ⟨v, Digits.int_eq_some_iff.mpr hv, rfl⟩

theorem read_eq_some_iff {type : WholeType} {numeral : List Char} {value : Literal} :
    type.read numeral = some value ↔
      ∃ v, (type.Spells numeral v ∧ type.least ≤ v ∧ v ≤ type.greatest) ∧
        value = type.literal v := by
  cases type with
  | nat => exact map_nat_eq_some_iff
  | int => exact map_int_eq_some_iff
  | bigNat => exact map_nat_eq_some_iff
  | bigInt => exact map_int_eq_some_iff

theorem map_number {α : Type} (kind : NumericKind) (text : String)
    (read : List Char → Option α) (make : α → Literal) :
    (Literal.number kind text read).map make =
      match (read text.toList.dropLast).map make with
      | some value => .ok value
      | none => .error (.invalidNumber kind text) := by
  unfold Literal.number
  cases read text.toList.dropLast <;> rfl

/-- A literal is what is read in front of its last character, and nothing else. -/
theorem parse_eq_read (type : WholeType) (regexes : RegexTable) (text : String) :
    Literal.parse regexes type.tid text =
      match type.read text.toList.dropLast with
      | some value => .ok value
      | none => .error (.invalidNumber type.kind text) := by
  cases type with
  | nat => exact map_number .nat text _ _
  | int => exact map_number .int text _ _
  | bigNat => exact map_number .bigNat text _ _
  | bigInt => exact map_number .bigInt text _ _

/-- An unsigned numeral is a numeral of every type. -/
theorem spells_of_spellsNat (type : WholeType) {numeral : List Char} {n : Nat}
    (h : Digits.SpellsNat numeral n) : type.Spells numeral n := by
  cases type with
  | nat => exact ⟨n, h, rfl⟩
  | int => exact .inl ⟨n, h, rfl⟩
  | bigNat => exact ⟨n, h, rfl⟩
  | bigInt => exact .inl ⟨n, h, rfl⟩

theorem Spells.spellsInt {type : WholeType} {numeral : List Char} {v : Int}
    (h : type.Spells numeral v) : Digits.SpellsInt numeral v := by
  cases type with
  | nat => exact .inl h
  | int => exact h
  | bigNat => exact .inl h
  | bigInt => exact h

theorem not_spells_nil {type : WholeType} {v : Int} : ¬type.Spells [] v := by
  intro h
  rcases h.spellsInt with ⟨n, h | ⟨digits, hnil, -⟩, -⟩ | ⟨digits, n, hnil, -⟩
  · exact h.nonempty rfl
  · cases hnil
  · cases hnil

/-- A literal is a numeral in range behind which one character is dropped. -/
theorem isLiteral_iff {type : WholeType} {text : String} {v : Int} :
    type.IsLiteral text v ↔
      type.Spells text.toList.dropLast v ∧ type.least ≤ v ∧ v ≤ type.greatest := by
  refine and_congr_left fun _ => ⟨?_, ?_⟩
  · rintro ⟨numeral, suffix, htext, hspells⟩
    rwa [htext, List.dropLast_concat]
  · intro hspells
    have hne : text.toList ≠ [] := by
      intro hnil
      rw [hnil] at hspells
      exact not_spells_nil hspells
    exact ⟨_, text.toList.getLast hne, (List.dropLast_concat_getLast hne).symm, hspells⟩

/-- The decimal rendering of a value is a numeral of every type that has the value. -/
theorem spells_toString {type : WholeType} {v : Int} (h : type.least ≤ v) :
    type.Spells (toString v).toList v := by
  have hunsigned : 0 ≤ v → type.Spells (toString v).toList v := by
    intro hpos
    obtain ⟨n, rfl⟩ := Int.eq_ofNat_of_zero_le hpos
    exact type.spells_of_spellsNat (.inl (Digits.spells_repr n))
  cases type with
  | nat => exact hunsigned h
  | int => exact Digits.spellsInt_toString v
  | bigNat => exact hunsigned h
  | bigInt => exact Digits.spellsInt_toString v

/-- The decimal rendering of a number is a literal of that number alone. -/
theorem isLiteral_toString_iff {type : WholeType} {v w : Int} {suffix : Char} :
    type.IsLiteral ((toString v).push suffix) w ↔
      w = v ∧ type.least ≤ v ∧ v ≤ type.greatest := by
  rw [isLiteral_iff, String.toList_push, List.dropLast_concat]
  constructor
  · rintro ⟨hspells, hrange⟩
    obtain rfl := hspells.spellsInt.unique (Digits.spellsInt_toString v)
    exact ⟨rfl, hrange⟩
  · rintro ⟨rfl, hrange⟩
    exact ⟨spells_toString hrange.1, hrange⟩

/-- The errors of a type carry its name. -/
theorem name_kind (type : WholeType) :
    (reservedDescriptors[type.tid.value]?).map TypeDescriptor.name = some type.kind.name := by
  cases type <;> rfl

/-- A text is a literal of a whole number exactly when it is a numeral of a value in range with
    one more character, and then the literal has this value. Every other text is refused, and the
    error names the type and holds the text. So the decimal rendering of a number is read back,
    whatever character follows it, as long as the number is in range. -/
theorem parse_exactly (type : WholeType) (regexes : RegexTable) :
    (∀ text value, Literal.parse regexes type.tid text = .ok value ↔
      ∃ v, type.IsLiteral text v ∧ value = type.literal v) ∧
    (∀ text, (¬∃ v, type.IsLiteral text v) →
      Literal.parse regexes type.tid text = .error (.invalidNumber type.kind text)) ∧
    (reservedDescriptors[type.tid.value]?).map TypeDescriptor.name = some type.kind.name ∧
    ∀ (v : Int) (suffix : Char), Literal.parse regexes type.tid ((toString v).push suffix) =
      if type.least ≤ v ∧ v ≤ type.greatest then .ok (type.literal v)
      else .error (.invalidNumber type.kind ((toString v).push suffix)) := by
  have hread : ∀ text value, Literal.parse regexes type.tid text = .ok value ↔
      ∃ v, type.IsLiteral text v ∧ value = type.literal v := by
    intro text value
    simp only [isLiteral_iff]
    rw [parse_eq_read, ← read_eq_some_iff]
    cases type.read text.toList.dropLast with
    | none => exact ⟨nofun, nofun⟩
    | some found => rw [Except.ok.injEq, Option.some.injEq]
  have hrefused : ∀ text, (¬∃ v, type.IsLiteral text v) →
      Literal.parse regexes type.tid text = .error (.invalidNumber type.kind text) := by
    intro text hnone
    have hnot : ∀ value, Literal.parse regexes type.tid text ≠ .ok value := by
      intro value hvalue
      obtain ⟨v, hliteral, -⟩ := (hread text value).mp hvalue
      exact hnone ⟨v, hliteral⟩
    rw [parse_eq_read] at hnot ⊢
    cases hfound : type.read text.toList.dropLast with
    | none => rfl
    | some found =>
      rw [hfound] at hnot
      exact absurd rfl (hnot found)
  refine ⟨hread, hrefused, type.name_kind, ?_⟩
  intro v suffix
  split
  · next hrange =>
    exact (hread _ _).mpr ⟨v, isLiteral_toString_iff.mpr ⟨rfl, hrange⟩, rfl⟩
  · next hrange =>
    refine hrefused _ ?_
    rintro ⟨w, hliteral⟩
    exact hrange (isLiteral_toString_iff.mp hliteral).2

/-- A sign without digits is refused, and so is the number above the greatest one, while the
    least one is read with any character behind it. -/
theorem parse_exactly_of_edges :
    (¬∃ v, int.IsLiteral "-n" v) ∧
    Literal.parse .empty .int "-n" = .error (.invalidNumber .int "-n") ∧
    Literal.parse .empty .nat ((toString (2 ^ 64 : Int)).push 'n') =
      .error (.invalidNumber .nat ((toString (2 ^ 64 : Int)).push 'n')) ∧
    Literal.parse .empty .bigInt ((toString (-2 ^ 127 : Int)).push 'é') =
      .ok (.bigInt (-2 ^ 127)) := by
  have hsign : ¬∃ v, int.IsLiteral "-n" v := by
    rintro ⟨v, hliteral⟩
    obtain ⟨⟨n, hspells | ⟨digits, hplus, -⟩, -⟩ | ⟨digits, n, hminus, hspells, -⟩, -⟩ :=
      isLiteral_iff.mp hliteral
    · cases hspells.head_isDecimal
    · cases hplus
    · cases hminus
      exact hspells.nonempty rfl
  exact ⟨hsign, (parse_exactly int .empty).2.1 "-n" hsign,
    (parse_exactly nat .empty).2.2.2 (2 ^ 64) 'n',
    (parse_exactly bigInt .empty).2.2.2 (-2 ^ 127) 'é'⟩

end WholeType

end ProgramImage
