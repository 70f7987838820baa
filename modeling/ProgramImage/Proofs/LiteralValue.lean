import ProgramImage.Literal
import ProgramImage.Proofs.Numerals
import ProgramImage.Proofs.Outcome

/-!
# Values of literals

A literal that is read has the value that its text stands for. A number is spelled by its
decimal digits, with a sign in front where the type has one, and keeps to the range of its
type; a string is what stands between two quotation marks, and no longer than the largest
string buffer. These are stated without the readers, and `Literal.denotes_of_parse` says
that the readers give nothing else.

## Main definitions

* `Digits.Spells`, `Digits.SpellsNat` and `Digits.SpellsInt` relate numbers to the texts
  that spell them.
* `Literal.Denotes` relates a text and a type to the value that the text stands for.
-/

namespace ProgramImage

theorem Except.toOption_eq_some {ε α : Type} {x : Except ε α} {a : α} :
    x.toOption = some a ↔ x = .ok a := by
  cases x with
  | error e => simp [Except.toOption]
  | ok b => simp [Except.toOption]

/-! ### Whole numbers -/

namespace Digits

/-- The number that decimal digits continue `n` to. -/
def continued (n : Nat) (digits : List Char) : Nat :=
  digits.foldl (fun n c => n * 10 + decimalValue c) n

/-- Some decimal digits, most significant first, stand for a number. -/
structure Spells (digits : List Char) (n : Nat) : Prop where
  nonempty : digits ≠ []
  decimal : ∀ c ∈ digits, isDecimal c
  value : continued 0 digits = n

/-- Digits stand for a number, with or without a plus sign. -/
def SpellsNat (text : List Char) (n : Nat) : Prop :=
  Spells text n ∨ ∃ digits, text = '+' :: digits ∧ Spells digits n

/-- Digits stand for an integer, with or without a sign. -/
def SpellsInt (text : List Char) (i : Int) : Prop :=
  (∃ n : Nat, SpellsNat text n ∧ i = n) ∨
    ∃ digits, ∃ n : Nat, text = '-' :: digits ∧ Spells digits n ∧ i = -n

theorem Spells.unique {digits : List Char} {n m : Nat} (hn : Spells digits n)
    (hm : Spells digits m) : n = m :=
  hn.value.symm.trans hm.value

/-- A text that starts with a sign has no digits only. -/
theorem Spells.head_isDecimal {sign : Char} {digits : List Char} {n : Nat}
    (h : Spells (sign :: digits) n) : isDecimal sign :=
  h.decimal sign List.mem_cons_self

/-- A text spells one natural number at most. -/
theorem SpellsNat.unique {text : List Char} {n m : Nat} (hn : SpellsNat text n)
    (hm : SpellsNat text m) : n = m := by
  rcases hn with hn | ⟨digits, rfl, hn⟩
  · rcases hm with hm | ⟨digits, rfl, hm⟩
    · exact hn.unique hm
    · cases hn.head_isDecimal
  · rcases hm with hm | ⟨others, heq, hm⟩
    · cases hm.head_isDecimal
    · cases heq
      exact hn.unique hm

/-- A natural number is spelled without a minus sign. -/
theorem SpellsNat.head_ne_minus {digits : List Char} {n : Nat}
    (h : SpellsNat ('-' :: digits) n) : False := by
  rcases h with h | ⟨others, heq, -⟩
  · cases h.head_isDecimal
  · cases heq

/-- A text spells one integer at most. -/
theorem SpellsInt.unique {text : List Char} {i k : Int} (hi : SpellsInt text i)
    (hk : SpellsInt text k) : i = k := by
  rcases hi with ⟨n, hn, rfl⟩ | ⟨digits, n, rfl, hn, rfl⟩
  · rcases hk with ⟨m, hm, rfl⟩ | ⟨digits, m, rfl, hm, rfl⟩
    · rw [hn.unique hm]
    · exact hn.head_ne_minus.elim
  · rcases hk with ⟨m, hm, rfl⟩ | ⟨others, m, heq, hm, rfl⟩
    · exact hm.head_ne_minus.elim
    · cases heq
      rw [hn.unique hm]

/-- The digits of radix ten are the decimal digits. -/
theorem isDigit_ten_iff {c : Char} {value : Nat} :
    IsDigit 10 c value ↔ isDecimal c ∧ decimalValue c = value := by
  have hdecimal : isDecimal c ↔ 48 ≤ c.toNat ∧ c.toNat ≤ 57 := by
    simp [isDecimal, Char.le_def, UInt32.le_iff_toNat_le]
  rw [isDigit_iff_code (by decide), hdecimal, decimalValue]
  omega

theorem forall₂_isDigit_ten_iff {digits : List Char} {values : List Nat} :
    List.Forall₂ (IsDigit 10) digits values ↔
      (∀ c ∈ digits, isDecimal c) ∧ values = digits.map decimalValue := by
  induction digits generalizing values with
  | nil => simp
  | cons c digits ih =>
    simp only [List.forall₂_cons_left_iff, isDigit_ten_iff, ih, List.forall_mem_cons, List.map_cons]
    constructor
    · rintro ⟨_, _, ⟨hc, rfl⟩, ⟨hdigits, rfl⟩, rfl⟩
      exact ⟨⟨hc, hdigits⟩, rfl⟩
    · rintro ⟨⟨hc, hdigits⟩, rfl⟩
      exact ⟨_, _, ⟨hc, rfl⟩, ⟨hdigits, rfl⟩, rfl⟩

theorem continued_eq_ofDigits (n : Nat) (digits : List Char) :
    continued n digits =
      n * 10 ^ digits.length + Nat.ofDigits 10 (digits.map decimalValue).reverse := by
  induction digits generalizing n with
  | nil => simp [continued]
  | cons c digits ih =>
    have hstep : continued n (c :: digits) = continued (n * 10 + decimalValue c) digits := rfl
    rw [hstep, ih, List.map_cons, ofDigits_reverse_cons, List.length_map, List.length_cons]
    ring

/-- Decimal digits are the numerals of radix ten. -/
theorem spells_iff {digits : List Char} {n : Nat} : Spells digits n ↔ SpellsIn 10 digits n := by
  constructor
  · rintro ⟨hne, hdecimal, hvalue⟩
    refine ⟨hne, _, forall₂_isDigit_ten_iff.mpr ⟨hdecimal, rfl⟩, ?_⟩
    rw [← hvalue, continued_eq_ofDigits, zero_mul, zero_add]
  · rintro ⟨hne, values, hvalues, hn⟩
    obtain ⟨hdecimal, rfl⟩ := forall₂_isDigit_ten_iff.mp hvalues
    refine ⟨hne, hdecimal, ?_⟩
    rw [continued_eq_ofDigits, zero_mul, zero_add, hn]

theorem spellsNat_iff {text : List Char} {n : Nat} : SpellsNat text n ↔ SpellsSigned 10 text n := by
  simp only [SpellsNat, SpellsSigned, spells_iff]

/-- The decimal digits that are read are those that spell a number within the limit. -/
theorem unsigned_ten_eq_ok_iff {limit : Nat} {overflow : DigitError} {n : Nat}
    {digits : List Char} :
    unsigned 10 limit overflow digits = .ok n ↔ Spells digits n ∧ n ≤ limit := by
  rw [unsigned_eq_ok_iff (by decide) (by decide), spells_iff]

/-- A natural number is read from digits that spell it, within its limit. -/
theorem nat_ten_eq_ok_iff {limit n : Nat} {text : List Char} :
    nat 10 limit text = .ok n ↔ SpellsNat text n ∧ n ≤ limit := by
  rw [nat_eq_ok_iff (by decide) (by decide), spellsNat_iff]

/-- An integer is read from digits that spell it, within its limits, of which the lower is
    one further away. -/
theorem int_eq_ok {limit : Nat} {i : Int} {text : List Char} (h : int 10 limit text = .ok i) :
    -((limit : Int) + 1) ≤ i ∧ i ≤ limit ∧ SpellsInt text i := by
  unfold int at h
  split at h
  · cases h
  · obtain ⟨n, hn, rfl⟩ := Except.map_eq_ok.mp h
    obtain ⟨hspells, hle⟩ := unsigned_ten_eq_ok_iff.mp hn
    rw [Int.ofNat_eq_natCast]
    exact ⟨by omega, by omega, .inl ⟨n, .inr ⟨_, rfl, hspells⟩, rfl⟩⟩
  · obtain ⟨i, hi, rfl⟩ := Except.map_eq_ok.mp h
    obtain ⟨n, hn, hcast⟩ := Except.bind_eq_ok.mp hi
    obtain rfl : (n : Int) = i := Except.ok.inj hcast
    obtain ⟨hspells, hle⟩ := unsigned_ten_eq_ok_iff.mp hn
    exact ⟨by omega, by omega, .inr ⟨_, n, rfl, hspells, rfl⟩⟩
  · obtain ⟨n, hn, rfl⟩ := Except.map_eq_ok.mp h
    obtain ⟨hspells, hle⟩ := unsigned_ten_eq_ok_iff.mp hn
    rw [Int.ofNat_eq_natCast]
    exact ⟨by omega, by omega, .inl ⟨n, .inl hspells, rfl⟩⟩

end Digits

/-! ### Literals -/

namespace Literal

/-- What a text stands for as a literal of a type. A number is followed by one more
    character, and the reading of floating point numbers is taken as it is. -/
inductive Denotes (regexes : RegexTable) (text : String) : TypeId → Literal → Prop
  | none : Denotes regexes text .none unit
  | nothing : Denotes regexes text .nothing unit
  | bool : Denotes regexes text .bool (bool (text == "true"))
  | nat {n : Nat} (hspells : Digits.SpellsNat text.toList.dropLast n) (hle : n ≤ max64) :
      Denotes regexes text .nat (nat n)
  | int {i : Int} (hspells : Digits.SpellsInt text.toList.dropLast i)
      (hlow : -((max64 / 2 : Nat) + 1 : Int) ≤ i) (hhigh : i ≤ (max64 / 2 : Nat)) :
      Denotes regexes text .int (int i)
  | bigNat {n : Nat} (hspells : Digits.SpellsNat text.toList.dropLast n) (hle : n ≤ max128) :
      Denotes regexes text .bigNat (bigNat n)
  | bigInt {i : Int} (hspells : Digits.SpellsInt text.toList.dropLast i)
      (hlow : -((max128 / 2 : Nat) + 1 : Int) ≤ i) (hhigh : i ≤ (max128 / 2 : Nat)) :
      Denotes regexes text .bigInt (bigInt i)
  | float {x : Double} (hread : Double.ofText? text.toList.dropLast = some x) :
      Denotes regexes text .float (float x)
  | decimal {x : Double} (hread : Double.ofText? text.toList.dropLast = some x) :
      Denotes regexes text .decimal (float x)
  | string {body : List Char} (htext : text.toList = '"' :: (body ++ ['"']))
      (hlength : (Utf8.encode body).length ≤ maxBufferString) :
      Denotes regexes text .string (string (String.ofList body))
  | regex {id : RegexId} (hfound : regexes.lookup text = some id) :
      Denotes regexes text .regex (regex id)

/-- A text stands for one value of a type at most. -/
theorem Denotes.unique {regexes : RegexTable} {text : String} {tid : TypeId}
    {value other : Literal} (hvalue : Denotes regexes text tid value)
    (hother : Denotes regexes text tid other) : value = other := by
  cases hvalue with
  | none => cases hother; rfl
  | nothing => cases hother; rfl
  | bool => cases hother; rfl
  | nat hspells => cases hother with | nat hothers => rw [hspells.unique hothers]
  | int hspells => cases hother with | int hothers => rw [hspells.unique hothers]
  | bigNat hspells => cases hother with | bigNat hothers => rw [hspells.unique hothers]
  | bigInt hspells => cases hother with | bigInt hothers => rw [hspells.unique hothers]
  | float hread =>
    cases hother with | float hothers => rw [Option.some.inj (hread.symm.trans hothers)]
  | decimal hread =>
    cases hother with | decimal hothers => rw [Option.some.inj (hread.symm.trans hothers)]
  | string htext =>
    cases hother with
    | string hothers =>
      have hbodies := (List.cons.inj (htext.symm.trans hothers)).2
      rw [List.append_cancel_right hbodies]
  | regex hfound =>
    cases hother with | regex hothers => rw [Option.some.inj (hfound.symm.trans hothers)]

theorem unquote?_eq_some {text body : List Char} (h : unquote? text = some body) :
    text = '"' :: (body ++ ['"']) := by
  unfold unquote? at h
  split at h
  · next rest =>
    split at h
    · next hlast =>
      obtain rfl := Option.some.inj h
      obtain ⟨init, rfl⟩ := List.getLast?_eq_some_iff.mp hlast
      rw [List.dropLast_concat]
    · cases h
  · cases h

/-- A string literal is a text between quotation marks, and no longer than the largest
    string buffer. -/
theorem parseString_eq_ok {text : String} {value : Literal} (h : parseString text = .ok value) :
    ∃ body, text.toList = '"' :: (body ++ ['"']) ∧
      (Utf8.encode body).length ≤ maxBufferString ∧ value = string (String.ofList body) := by
  unfold parseString at h
  split at h
  · cases h
  · next body hbody =>
    dsimp only at h
    split at h
    · cases h
    · next hlength =>
      cases h
      exact ⟨body, unquote?_eq_some hbody, by omega, rfl⟩

theorem number_eq_ok {α : Type} {kind : NumericKind} {text : String}
    {read : List Char → Option α} {value : α} (h : number kind text read = .ok value) :
    read text.toList.dropLast = some value := by
  unfold number at h
  split at h
  · next found hfound =>
    cases h
    exact hfound
  · cases h

/-- A numeric literal is a value that its reader gives. -/
theorem map_number_eq_ok {α : Type} {kind : NumericKind} {text : String}
    {read : List Char → Option α} {make : α → Literal} {value : Literal}
    (h : (number kind text read).map make = .ok value) :
    ∃ found, read text.toList.dropLast = some found ∧ value = make found := by
  obtain ⟨found, hfound, rfl⟩ := Except.map_eq_ok.mp h
  exact ⟨found, number_eq_ok hfound, rfl⟩

/-- The value of a literal is what its text stands for. -/
theorem denotes_of_parse {regexes : RegexTable} {tid : TypeId} {text : String}
    {value : Literal} (h : parse regexes tid text = .ok value) :
    Denotes regexes text tid value := by
  unfold parse at h
  by_cases hunit : (tid = .none || tid = .nothing) = true
  · rw [if_pos hunit] at h
    cases h
    rcases (by simpa using hunit : tid = .none ∨ tid = .nothing) with rfl | rfl
    · exact .none
    · exact .nothing
  rw [if_neg hunit] at h
  by_cases htid : tid = .bool
  · rw [if_pos htid] at h
    cases h
    exact htid ▸ .bool
  rw [if_neg htid] at h
  by_cases htid : tid = .nat
  · rw [if_pos htid] at h
    obtain ⟨n, hn, rfl⟩ := map_number_eq_ok h
    obtain ⟨hspells, hle⟩ := Digits.nat_ten_eq_ok_iff.mp (Except.toOption_eq_some.mp hn)
    exact htid ▸ .nat hspells hle
  rw [if_neg htid] at h
  by_cases htid : tid = .int
  · rw [if_pos htid] at h
    obtain ⟨i, hi, rfl⟩ := map_number_eq_ok h
    obtain ⟨hlow, hhigh, hspells⟩ := Digits.int_eq_ok (Except.toOption_eq_some.mp hi)
    exact htid ▸ .int hspells hlow hhigh
  rw [if_neg htid] at h
  by_cases htid : tid = .bigNat
  · rw [if_pos htid] at h
    obtain ⟨n, hn, rfl⟩ := map_number_eq_ok h
    obtain ⟨hspells, hle⟩ := Digits.nat_ten_eq_ok_iff.mp (Except.toOption_eq_some.mp hn)
    exact htid ▸ .bigNat hspells hle
  rw [if_neg htid] at h
  by_cases htid : tid = .bigInt
  · rw [if_pos htid] at h
    obtain ⟨i, hi, rfl⟩ := map_number_eq_ok h
    obtain ⟨hlow, hhigh, hspells⟩ := Digits.int_eq_ok (Except.toOption_eq_some.mp hi)
    exact htid ▸ .bigInt hspells hlow hhigh
  rw [if_neg htid] at h
  by_cases htid : tid = .float
  · rw [if_pos htid] at h
    obtain ⟨x, hread, rfl⟩ := map_number_eq_ok h
    exact htid ▸ .float hread
  rw [if_neg htid] at h
  by_cases htid : tid = .decimal
  · rw [if_pos htid] at h
    obtain ⟨x, hread, rfl⟩ := map_number_eq_ok h
    exact htid ▸ .decimal hread
  rw [if_neg htid] at h
  by_cases htid : tid = .rational
  · rw [if_pos htid] at h
    cases h
  rw [if_neg htid] at h
  by_cases htid : tid = .string
  · rw [if_pos htid] at h
    obtain ⟨body, htext, hlength, rfl⟩ := parseString_eq_ok h
    exact htid ▸ .string htext hlength
  rw [if_neg htid] at h
  by_cases htid : tid = .regex
  · rw [if_pos htid] at h
    split at h
    · next id hfound =>
      cases h
      exact htid ▸ .regex hfound
    · cases h
  · rw [if_neg htid] at h
    cases h

theorem Denotes.isReserved {regexes : RegexTable} {text : String} {tid : TypeId}
    {value : Literal} (h : Denotes regexes text tid value) : tid.isReserved := by
  cases h <;> rfl

end Literal

end ProgramImage
