import Mathlib.Data.List.TakeWhile
import ProgramImage.Command.Report
import ProgramImage.Proofs.Numerals

/-!
# Texts of header words

A header word is written in decimal or in hexadecimal, with a plus sign in front of the digits if
one likes. White space around the text is dropped first and underscores after it, so an underscore
may stand anywhere in the word, but not outside the white space. What is left is taken as a whole:
it is a numeral of a word, or it is refused.

## Main definitions

* `Text.Trims` says that a text is another one with white space around it.
* `Command.SpellsWord` is the grammar of header words.

## Main statements

* `Text.trims_iff` is the meaning of trimming.
* `Command.readWord_eq_ok_iff` says which texts are read, and as what.
* `Command.header_word_exactly` is the reading of every text, and of what the command prints.
-/

namespace ProgramImage

/-! ### White space around a text -/

namespace Text

/-- A text is `core` with white space around it, and `core` neither starts nor ends with any. -/
structure Trims (text core : List Char) : Prop where
  around : ∃ front back, text = front ++ core ++ back ∧ ∀ c ∈ front ++ back, isBlank c
  starts : ∀ c ∈ core.head?, isBlank c = false
  ends : ∀ c ∈ core.getLast?, isBlank c = false

/-- The visible ASCII characters are no white space. -/
theorem isBlank_of_visible {c : Char} (hlow : 33 ≤ c.toNat) (hhigh : c.toNat ≤ 126) :
    isBlank c = false := by
  -- two stretches of white space lie below, and the next one starts at 133
  have hbelow : ∀ boundary ∈ [9, 14, 32, 33], ¬c.toNat < boundary := by simp; omega
  simp only [List.forall_mem_cons] at hbelow
  obtain ⟨h9, h14, h32, h33, -⟩ := hbelow
  show Ranges.containsFrom c.toNat false (9 :: 14 :: 32 :: 33 :: 133 :: _) = false
  rw [Ranges.containsFrom, if_neg h9, Ranges.containsFrom, if_neg h14, Ranges.containsFrom,
    if_neg h32, Ranges.containsFrom, if_neg h33, Ranges.containsFrom, if_pos (by omega)]
  rfl

/-- Nothing is dropped from a text that does not start with white space. -/
theorem dropWhile_of_head {text : List Char} (h : ∀ c ∈ text.head?, isBlank c = false) :
    text.dropWhile isBlank = text := by
  cases text with
  | nil => rfl
  | cons c text => exact List.dropWhile_cons_of_neg (by simp [h c rfl])

theorem head?_dropWhile (text : List Char) :
    ∀ c ∈ (text.dropWhile isBlank).head?, isBlank c = false := by
  have h := List.head?_dropWhile_not isBlank text
  rintro c hc
  rw [Option.mem_def] at hc
  simpa [hc] using h

/-- White space in front of a text that does not start with any is what is dropped. -/
theorem dropWhile_append {front text : List Char} (hfront : ∀ c ∈ front, isBlank c)
    (h : ∀ c ∈ text.head?, isBlank c = false) : (front ++ text).dropWhile isBlank = text := by
  rw [List.dropWhile_append_of_pos hfront, dropWhile_of_head h]

/-- A text has one core, which trimming leaves. -/
theorem trims_iff {text core : List Char} : Trims text core ↔ trim text = core := by
  constructor
  · rintro ⟨⟨front, back, rfl, hblank⟩, hstarts, hends⟩
    obtain ⟨hfront, hback⟩ := List.forall_mem_append.mp hblank
    cases core with
    | nil =>
      have hnone : (front ++ [] ++ back).dropWhile isBlank = [] := by
        rw [List.append_nil]
        exact List.dropWhile_eq_nil_iff.mpr hblank
      rw [trim, hnone]
      rfl
    | cons c core =>
      have hbehind : (front ++ (c :: core ++ back)).dropWhile isBlank = c :: core ++ back :=
        dropWhile_append hfront hstarts
      have hfrom : (back.reverse ++ (c :: core).reverse).dropWhile isBlank = (c :: core).reverse :=
        dropWhile_append (by simpa using hback) (by rwa [List.head?_reverse])
      rw [trim, List.append_assoc, hbehind, List.reverse_append, hfrom, List.reverse_reverse]
  · rintro rfl
    let back := ((text.dropWhile isBlank).reverse.takeWhile isBlank).reverse
    have hblank : ∀ {part : List Char}, ∀ c ∈ part.takeWhile isBlank, isBlank c :=
      List.all_eq_true.mp List.all_takeWhile
    have hcore : trim text ++ back = text.dropWhile isBlank := by
      rw [trim, ← List.reverse_append, List.takeWhile_append_dropWhile, List.reverse_reverse]
    refine ⟨⟨text.takeWhile isBlank, back, ?_, ?_⟩, ?_, ?_⟩
    · rw [List.append_assoc, hcore, List.takeWhile_append_dropWhile]
    · exact List.forall_mem_append.mpr ⟨hblank, fun c hc => hblank c (List.mem_reverse.mp hc)⟩
    · intro c hc
      apply head?_dropWhile text c
      rw [← hcore, List.head?_append, Option.mem_def.mp hc]
      rfl
    · rw [trim, List.getLast?_reverse]
      exact head?_dropWhile _

end Text

/-! ### Words -/

namespace Command

open Digits CommandOutput

/-- The texts of a number: a decimal numeral, or a hexadecimal one behind a zero and an x. Both may
    have a plus sign. -/
inductive SpellsWord : List Char → Nat → Prop
  | decimal {text : List Char} {n : Nat} (h : SpellsSigned 10 text n) : SpellsWord text n
  | hex {text : List Char} {n : Nat} {x : Char} (hx : x = 'x' ∨ x = 'X')
      (h : SpellsSigned 16 text n) : SpellsWord ('0' :: x :: text) n

/-- No decimal numeral has an x in it. -/
theorem not_spellsSigned_ten {text : List Char} {n : Nat} {x : Char} (hx : x = 'x' ∨ x = 'X') :
    ¬SpellsSigned 10 ('0' :: x :: text) n := by
  rintro (⟨-, values, hvalues, -⟩ | ⟨digits, hplus, -⟩)
  · obtain ⟨_, _, -, hrest, -⟩ := List.forall₂_cons_left_iff.mp hvalues
    obtain ⟨_, _, hdigit, -, -⟩ := List.forall₂_cons_left_iff.mp hrest
    have hcode := (isDigit_iff_code (by decide)).mp hdigit
    rcases hx with rfl | rfl
    · simp only [Char.reduceToNat] at hcode
      omega
    · simp only [Char.reduceToNat] at hcode
      omega
  · cases hplus

theorem spellsWord_hex_iff {text : List Char} {n : Nat} {x : Char} (hx : x = 'x' ∨ x = 'X') :
    SpellsWord ('0' :: x :: text) n ↔ SpellsSigned 16 text n := by
  constructor
  · intro h
    cases h with
    | decimal h => exact absurd h (not_spellsSigned_ten hx)
    | hex _ h => exact h
  · exact .hex hx

/-- The texts that are read are those of the numbers of 64 bits. -/
theorem readWord_eq_ok_iff {text : List Char} {n : Nat} :
    readWord text = .ok n ↔ SpellsWord text n ∧ n < 2 ^ 64 := by
  have hlimit : n ≤ max64 ↔ n < 2 ^ 64 := Nat.lt_succ_iff.symm
  unfold readWord
  split
  · rw [nat_eq_ok_iff (by decide) (by decide), spellsWord_hex_iff (.inl rfl), hlimit]
  · rw [nat_eq_ok_iff (by decide) (by decide), spellsWord_hex_iff (.inr rfl), hlimit]
  · next hlower hupper =>
    rw [nat_eq_ok_iff (by decide) (by decide), hlimit]
    refine and_congr_left fun _ => ⟨.decimal, ?_⟩
    intro h
    cases h with
    | decimal h => exact h
    | hex hx h =>
      rcases hx with rfl | rfl
      · exact absurd rfl (hlower _)
      · exact absurd rfl (hupper _)

/-! ### What is printed -/

/-- The characters of a printed word: digits, and the x of a hexadecimal word. -/
def IsWordChar (c : Char) : Prop :=
  c = 'x' ∨ ∃ value, IsDigit 16 c value

theorem isBlank_of_isWordChar {c : Char} (h : IsWordChar c) : Text.isBlank c = false := by
  rcases h with rfl | ⟨value, hdigit⟩
  · rfl
  · have hcode := (isDigit_iff_code (by decide)).mp hdigit
    exact Text.isBlank_of_visible (by omega) (by omega)

theorem isWordChar_of_spellsIn {radix n : Nat} {digits : List Char} (hradix : radix ≤ 16)
    (h : SpellsIn radix digits n) : ∀ c ∈ digits, IsWordChar c := by
  obtain ⟨-, values, hvalues, -⟩ := h
  have hdigits : ∀ c ∈ digits, ∃ value, IsDigit radix c value := by
    clear * - hvalues
    induction hvalues with
    | nil => simp
    | cons hdigit _ ih => exact List.forall_mem_cons.mpr ⟨⟨_, hdigit⟩, ih⟩
  intro c hc
  obtain ⟨value, hlt, hspelling⟩ := hdigits c hc
  exact .inr ⟨value, Nat.lt_of_lt_of_le hlt hradix, hspelling⟩

/-- The decimal text of a word. -/
theorem toString_spells (word : HeaderWord) :
    SpellsWord (toString word.raw).toList word.raw ∧
      ∀ c ∈ (toString word.raw).toList, IsWordChar c := by
  have htext : (toString word.raw).toList = Nat.toDigits 10 word.raw := by
    rw [Nat.toString_eq_repr, Nat.repr_eq_ofList_toDigits, String.toList_ofList]
  have hdigits : SpellsIn 10 (Nat.toDigits 10 word.raw) word.raw :=
    spellsIn_toDigits (by decide) word.raw
  rw [htext]
  exact ⟨.decimal (.inl hdigits), isWordChar_of_spellsIn (by decide) hdigits⟩

/-- The hexadecimal text of a word, as the command shows it. -/
theorem hexText_spells (word : HeaderWord) :
    SpellsWord word.hexText.toList word.raw ∧ ∀ c ∈ word.hexText.toList, IsWordChar c := by
  let zeros := 16 - (Text.hex word.raw).length
  let digits := List.replicate zeros '0' ++ Text.hex word.raw
  have htext : word.hexText.toList = '0' :: 'x' :: digits := by
    show ("0x" ++ String.ofList digits).toList = _
    rw [String.toList_append, @String.toList_ofList digits]
    rfl
  have hdigits : SpellsIn 16 digits word.raw :=
    (spellsIn_toDigits (by decide) word.raw).zeros_append (by decide) zeros
  have hzero : IsWordChar '0' := .inr ⟨0, by decide, .inl rfl⟩
  rw [htext]
  exact ⟨.hex (.inl rfl) (.inl hdigits), List.forall_mem_cons.mpr ⟨hzero,
    List.forall_mem_cons.mpr ⟨.inl rfl, isWordChar_of_spellsIn (by decide) hdigits⟩⟩⟩

/-- White space around a text of word characters and underscores is what is trimmed. -/
theorem trims_of_wordChars {front body back : List Char}
    (hblank : ∀ c ∈ front ++ back, Text.isBlank c)
    (hbody : ∀ c ∈ body.filter (· != '_'), IsWordChar c) :
    Text.Trims (front ++ body ++ back) body := by
  have hvisible : ∀ c ∈ body, Text.isBlank c = false := by
    intro c hc
    by_cases hunderscore : c = '_'
    · rw [hunderscore]
      rfl
    · exact isBlank_of_isWordChar (hbody c (List.mem_filter.mpr ⟨hc, by simpa using hunderscore⟩))
  exact {
    around := ⟨front, back, rfl, hblank⟩
    starts := fun c hc => hvisible c (List.mem_of_mem_head? hc)
    ends := fun c hc => hvisible c (List.mem_of_mem_getLast? hc) }

/-! ### Reading a text -/

theorem cleanWord_eq {text : String} {core : List Char} (h : Text.Trims text.toList core) :
    cleanWord text = core.filter (· != '_') := by
  rw [cleanWord, Text.trims_iff.mp h]

theorem headerReport_of_ok {text : String} {n : Nat} (h : readWord (cleanWord text) = .ok n) :
    headerReport text = ofLines (headerLines (.ofNat n)) := by
  simp only [headerReport, h]

theorem headerReport_of_error {text : String} {error : DigitError}
    (h : readWord (cleanWord text) = .error error) :
    headerReport text = failure ("invalid header word " ++
      Text.quote (String.ofList (cleanWord text))) [error.message] := by
  simp only [headerReport, h]

/-- Every text has a core, which its white space surrounds. With the underscores dropped from the
    core, what is left is read exactly if it is a numeral of a word, decimal or hexadecimal, and
    the fields of that word are shown. Any other text is an error, which tells what was left. The
    decimal text of a word and the hexadecimal one that is shown are read as the word, with
    underscores anywhere and white space around. -/
theorem header_word_exactly :
    (∀ text : String, ∃ core, Text.Trims text.toList core) ∧
    (∀ (text : String) (core : List Char), Text.Trims text.toList core →
      let left := core.filter (· != '_')
      (∀ n, readWord (cleanWord text) = .ok n ↔ SpellsWord left n ∧ n < 2 ^ 64) ∧
      (∀ n, SpellsWord left n → n < 2 ^ 64 →
        headerReport text = ofLines (headerLines (.ofNat n))) ∧
      ((¬∃ n, SpellsWord left n ∧ n < 2 ^ 64) →
        ∃ error, readWord (cleanWord text) = .error error ∧
          headerReport text = failure
            ("invalid header word " ++ Text.quote (String.ofList left)) [error.message])) ∧
    ∀ (word : HeaderWord) (front body back : List Char),
      (∀ c ∈ front ++ back, Text.isBlank c) →
      (body.filter (· != '_') = (toString word.raw).toList ∨
        body.filter (· != '_') = word.hexText.toList) →
      readWord (cleanWord (String.ofList (front ++ body ++ back))) = .ok word.raw := by
  refine ⟨fun text => ⟨_, Text.trims_iff.mpr rfl⟩, ?_, ?_⟩
  · intro text core hcore left
    have hleft : cleanWord text = left := cleanWord_eq hcore
    have hread : ∀ n, readWord (cleanWord text) = .ok n ↔ SpellsWord left n ∧ n < 2 ^ 64 := by
      intro n
      rw [hleft, readWord_eq_ok_iff]
    refine ⟨hread, fun n hn hlimit => headerReport_of_ok ((hread n).mpr ⟨hn, hlimit⟩), ?_⟩
    intro hnone
    cases hword : readWord (cleanWord text) with
    | ok n => exact absurd ⟨n, (hread n).mp hword⟩ hnone
    | error error =>
      refine ⟨error, rfl, ?_⟩
      rw [headerReport_of_error hword, hleft]
  · intro word front body back hblank hprinted
    obtain ⟨hspells, hchars⟩ : SpellsWord (body.filter (· != '_')) word.raw ∧
        ∀ c ∈ body.filter (· != '_'), IsWordChar c := by
      rcases hprinted with h | h
      · rw [h]
        exact toString_spells word
      · rw [h]
        exact hexText_spells word
    have hcore : Text.Trims (String.ofList (front ++ body ++ back)).toList body := by
      rw [String.toList_ofList]
      exact trims_of_wordChars hblank hchars
    rw [cleanWord_eq hcore]
    exact readWord_eq_ok_iff.mpr ⟨hspells, Nat.lt_succ_of_le word.raw_le⟩

/-- White space and an underscore around a hexadecimal numeral in upper case and with a plus sign;
    the first number that is no word, with a zero in front; and a decimal text with underscores. -/
theorem header_word_exactly_of_spacedTexts :
    readWord (cleanWord " 0X+1_F\t") = .ok 31 ∧
      (∃ error, readWord (cleanWord "018446744073709551616") = .error error) ∧
      readWord (cleanWord (String.ofList ([' '] ++ ['_', '3', '1', '_'] ++ ['\n']))) = .ok 31 := by
  obtain ⟨-, hread, hprinted⟩ := header_word_exactly
  refine ⟨?_, ?_, ?_⟩
  · have hcore : Text.Trims " 0X+1_F\t".toList "0X+1_F".toList := Text.trims_iff.mpr (by decide)
    have hdigits : SpellsIn 16 ['1', 'F'] 31 :=
      ⟨by decide, [1, 15], .cons ⟨by decide, .inl rfl⟩ (.cons ⟨by decide, .inr rfl⟩ .nil),
        by decide⟩
    have hword : SpellsWord ("0X+1_F".toList.filter (· != '_')) 31 :=
      .hex (.inr rfl) (.inr ⟨_, rfl, hdigits⟩)
    exact ((hread _ _ hcore).1 31).mpr ⟨hword, by decide⟩
  · have hcore : Text.Trims "018446744073709551616".toList "018446744073709551616".toList :=
      Text.trims_iff.mpr (by decide)
    obtain ⟨error, herror, -⟩ := (hread _ _ hcore).2.2 (by
      rintro ⟨n, hn⟩
      have hok := readWord_eq_ok_iff.mpr hn
      cases hok)
    exact ⟨error, herror⟩
  · have hblank : ∀ c ∈ [' '] ++ ['\n'], Text.isBlank c :=
      List.forall_mem_cons.mpr ⟨rfl, List.forall_mem_singleton.mpr rfl⟩
    exact hprinted (.ofNat 31) [' '] ['_', '3', '1', '_'] ['\n'] hblank (.inl (by decide))

end Command

end ProgramImage
