import Mathlib.Data.List.Forall2
import Mathlib.Data.Nat.Digits.Defs
import Mathlib.Tactic.Ring
import ProgramImage.Number.Digits

/-!
# Numerals of a radix

A numeral is one or more digits, most significant first, and stands for the sum of their values by
the powers of the radix. Its digits are taken in one after the other, and a value above the limit
is noticed at once; since more digits never make a number smaller, that is noticed exactly when the
whole numeral is above the limit.

## Main definitions

* `Digits.IsDigit` are the digits of a radix up to sixteen, in either case, with their values.
* `Digits.SpellsIn` relates numerals to numbers.

## Main statements

* `Digits.extend_eq_ok_iff` and `Digits.unsigned_eq_ok_iff` say what is read.
* `Digits.spellsIn_toDigits` are the numerals that are printed.
-/

namespace ProgramImage

namespace Digits

/-- A character is the digit with a value, in lower case or in upper case. -/
def IsDigit (radix : Nat) (c : Char) (value : Nat) : Prop :=
  value < radix ∧ (c = value.digitChar ∨ c = value.digitChar.toUpper)

/-- Some digits of a radix, most significant first, stand for a number. -/
structure SpellsIn (radix : Nat) (digits : List Char) (n : Nat) : Prop where
  nonempty : digits ≠ []
  denotes : ∃ values, List.Forall₂ (IsDigit radix) digits values ∧
    Nat.ofDigits radix values.reverse = n

/-- The codes of the digits: ten in a row, and six letters in a row for each case. -/
theorem isDigit_iff_code {radix value : Nat} {c : Char} (hradix : radix ≤ 16) :
    IsDigit radix c value ↔ value < radix ∧
      (value < 10 ∧ c.toNat = 48 + value ∨
        10 ≤ value ∧ (c.toNat = 87 + value ∨ c.toNat = 55 + value)) := by
  have hcodes : ∀ value < 16,
      value.digitChar.toNat = (if value < 10 then 48 + value else 87 + value) ∧
        value.digitChar.toUpper.toNat = (if value < 10 then 48 + value else 55 + value) := by
    decide
  refine and_congr_right fun hvalue => ?_
  obtain ⟨hlower, hupper⟩ := hcodes value (by omega)
  rw [← Char.toNat_inj, ← Char.toNat_inj, hlower, hupper]
  split <;> omega

/-- A character is read as a digit exactly when it is one. -/
theorem value?_eq_some_iff {radix value : Nat} {c : Char} (hradix : radix ≤ 16) :
    value? radix c = some value ↔ IsDigit radix c value := by
  have hbounds : ∀ low high : Char, (low ≤ c && c ≤ high) = true ↔
      low.toNat ≤ c.toNat ∧ c.toNat ≤ high.toNat := by
    intro low high
    rw [Bool.and_eq_true, decide_eq_true_iff, decide_eq_true_iff]
    rfl
  rw [isDigit_iff_code hradix]
  unfold value? isDecimal
  simp only [hbounds, Char.reduceToNat]
  -- one case for each kind of character, by its code
  split_ifs <;> simp only [Option.some.injEq, false_iff] <;> omega

/-! ### Reading -/

theorem ofDigits_reverse_cons (radix value : Nat) (values : List Nat) :
    Nat.ofDigits radix (value :: values).reverse =
      value * radix ^ values.length + Nat.ofDigits radix values.reverse := by
  rw [List.reverse_cons, Nat.ofDigits_append, Nat.ofDigits_singleton, List.length_reverse]
  ring

variable {radix limit value n : Nat} {overflow : DigitError} {digits text : List Char}

/-- Digits extend a value as long as the whole of them stays within the limit. -/
theorem extend_eq_ok_iff (hpos : 0 < radix) (hradix : radix ≤ 16) (hvalue : value ≤ limit) :
    extend radix limit overflow value digits = .ok n ↔
      ∃ values, List.Forall₂ (IsDigit radix) digits values ∧
        n = value * radix ^ values.length + Nat.ofDigits radix values.reverse ∧ n ≤ limit := by
  induction digits generalizing value with
  | nil =>
    simp only [extend, Except.ok.injEq, List.forall₂_nil_left_iff, exists_eq_left, List.length_nil,
      pow_zero, mul_one, List.reverse_nil, Nat.ofDigits_nil, add_zero]
    omega
  | cons c digits ih =>
    simp only [List.forall₂_cons_left_iff]
    unfold extend
    cases hdigit : value? radix c with
    | none =>
      refine ⟨nofun, ?_⟩
      rintro ⟨_, ⟨digit, values, hc, -, rfl⟩, -⟩
      rw [(value?_eq_some_iff hradix).mpr hc] at hdigit
      cases hdigit
    | some digit =>
      have hc := (value?_eq_some_iff hradix).mp hdigit
      have hunique : ∀ {other}, IsDigit radix c other → other = digit := by
        intro other hother
        rw [(value?_eq_some_iff hradix).mpr hother] at hdigit
        exact Option.some.inj hdigit
      have hshift : ∀ values : List Nat,
          (value * radix + digit) * radix ^ values.length + Nat.ofDigits radix values.reverse =
            value * radix ^ (digit :: values).length +
              Nat.ofDigits radix (digit :: values).reverse := by
        intro values
        rw [ofDigits_reverse_cons, List.length_cons]
        ring
      dsimp only
      split
      · next hover =>
        refine ⟨nofun, ?_⟩
        rintro ⟨_, ⟨other, values, hother, -, rfl⟩, rfl, hlimit⟩
        obtain rfl := hunique hother
        -- more digits do not make the number smaller
        have hmore : (value * radix + other) * 1 ≤
            (value * radix + other) * radix ^ values.length :=
          Nat.mul_le_mul_left _ (Nat.one_le_pow _ _ hpos)
        rw [← hshift] at hlimit
        omega
      · next hnext =>
        rw [ih (Nat.le_of_not_lt hnext)]
        constructor
        · rintro ⟨values, hvalues, rfl, hlimit⟩
          exact ⟨_, ⟨digit, values, hc, hvalues, rfl⟩, hshift values, hlimit⟩
        · rintro ⟨_, ⟨other, values, hother, hvalues, rfl⟩, rfl, hlimit⟩
          obtain rfl := hunique hother
          exact ⟨values, hvalues, (hshift values).symm, hlimit⟩

/-- The numerals that are read are those within the limit. -/
theorem unsigned_eq_ok_iff (hpos : 0 < radix) (hradix : radix ≤ 16) :
    unsigned radix limit overflow digits = .ok n ↔ SpellsIn radix digits n ∧ n ≤ limit := by
  have hextend : extend radix limit overflow 0 digits = .ok n ↔
      ∃ values, List.Forall₂ (IsDigit radix) digits values ∧
        n = Nat.ofDigits radix values.reverse ∧ n ≤ limit := by
    simp only [extend_eq_ok_iff hpos hradix (Nat.zero_le limit), zero_mul, zero_add]
  cases digits with
  | nil => exact ⟨nofun, fun h => absurd rfl h.1.nonempty⟩
  | cons c digits =>
    refine hextend.trans ⟨?_, ?_⟩
    · rintro ⟨values, hvalues, hn, hlimit⟩
      exact ⟨⟨List.cons_ne_nil c digits, values, hvalues, hn.symm⟩, hlimit⟩
    · rintro ⟨⟨-, values, hvalues, hn⟩, hlimit⟩
      exact ⟨values, hvalues, hn.symm, hlimit⟩

/-- A numeral starts with a digit, which no sign is. -/
theorem SpellsIn.head_ne_sign {sign : Char} (h : SpellsIn radix (sign :: digits) n)
    (hradix : radix ≤ 16) : sign ≠ '+' ∧ sign ≠ '-' := by
  obtain ⟨-, values, hvalues, -⟩ := h
  obtain ⟨value, -, hsign, -⟩ := List.forall₂_cons_left_iff.mp hvalues
  have hcode := (isDigit_iff_code hradix).mp hsign
  constructor
  · rintro rfl
    simp only [Char.reduceToNat] at hcode
    omega
  · rintro rfl
    simp only [Char.reduceToNat] at hcode
    omega

/-- A numeral with or without a plus sign. -/
def SpellsSigned (radix : Nat) (text : List Char) (n : Nat) : Prop :=
  SpellsIn radix text n ∨ ∃ digits, text = '+' :: digits ∧ SpellsIn radix digits n

/-- A natural number is read from its numerals, with or without a plus sign, within the limit. -/
theorem nat_eq_ok_iff (hpos : 0 < radix) (hradix : radix ≤ 16) :
    nat radix limit text = .ok n ↔ SpellsSigned radix text n ∧ n ≤ limit := by
  unfold nat SpellsSigned
  split
  · refine ⟨nofun, ?_⟩
    rintro ⟨h | ⟨digits, hnil, -⟩, -⟩
    · exact absurd rfl h.nonempty
    · cases hnil
  · next digits =>
    rw [unsigned_eq_ok_iff hpos hradix]
    refine and_congr_left fun _ => ⟨fun h => .inr ⟨digits, rfl, h⟩, ?_⟩
    rintro (h | ⟨others, heq, h⟩)
    · exact absurd rfl (h.head_ne_sign hradix).1
    · cases heq
      exact h
  · next hplus =>
    rw [unsigned_eq_ok_iff hpos hradix]
    refine and_congr_left fun _ => ⟨.inl, ?_⟩
    rintro (h | ⟨digits, rfl, -⟩)
    · exact h
    · exact absurd rfl (hplus digits)

/-! ### Printing -/

theorem isDigit_digitChar (h : value < radix) : IsDigit radix value.digitChar value :=
  ⟨h, .inl rfl⟩

/-- The digits that a number is printed with stand for it. -/
theorem spellsIn_toDigits (hbase : 1 < radix) (n : Nat) :
    SpellsIn radix (Nat.toDigits radix n) n := by
  refine ⟨Nat.toDigits_ne_nil, ?_⟩
  induction n using Nat.strongRecOn with
  | ind n ih =>
    rw [Nat.toDigits_eq_if hbase]
    split
    · next hlt =>
      exact ⟨[n], .cons (isDigit_digitChar hlt) .nil, Nat.ofDigits_singleton⟩
    · next hle =>
      obtain ⟨values, hvalues, hn⟩ := ih (n / radix) (Nat.div_lt_self (by omega) hbase)
      refine ⟨values ++ [n % radix], ?_, ?_⟩
      · exact List.rel_append hvalues
          (.cons (isDigit_digitChar (Nat.mod_lt n (by omega))) .nil)
      · rw [List.reverse_append, List.reverse_singleton, List.singleton_append, Nat.ofDigits_cons,
          hn]
        exact Nat.mod_add_div n radix

/-- Zeros in front of a numeral do not change what it stands for. -/
theorem SpellsIn.zeros_append (h : SpellsIn radix digits n) (hpos : 0 < radix) (zeros : Nat) :
    SpellsIn radix (List.replicate zeros '0' ++ digits) n := by
  obtain ⟨hne, values, hvalues, hn⟩ := h
  refine ⟨by simp [hne], ?_⟩
  induction zeros with
  | zero => exact ⟨values, hvalues, hn⟩
  | succ zeros ih =>
    obtain ⟨others, hothers, hsame⟩ := ih
    refine ⟨0 :: others, .cons (isDigit_digitChar hpos) hothers, ?_⟩
    rw [ofDigits_reverse_cons, hsame, zero_mul, zero_add]

end Digits

end ProgramImage
