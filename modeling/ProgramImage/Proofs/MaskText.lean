import ProgramImage.Mask
import ProgramImage.Proofs.Outcome
import ProgramImage.Proofs.Utf8Positions

/-!
# Texts of masks

A mask is read from the bytes of a text, up to the first zero byte, and what is no symbol is
reported as a character at a byte position. The symbols are ASCII characters, so every byte in
front of the one that is reported is a character of its own, and the position lies between two
characters. The reading of the bytes is therefore one of characters.

## Main definitions

* `Mask.IsSymbolChar` are the characters that stand for symbols.
* `Mask.readable` is the part of a text in front of its first zero character.

## Main statements

* `Mask.parse_of_symbols` and `Mask.parse_of_stray` are the two outcomes.
* `Mask.parse_readable` puts them together for every text, and reads back what is written.
-/

namespace ProgramImage

namespace MaskSymbol

/-- Every symbol is read from its own byte alone. -/
theorem ofByte?_eq_some_iff {byte : UInt8} {symbol : MaskSymbol} :
    ofByte? byte = some symbol ↔ symbol.byte = byte := by
  constructor
  · intro h
    simpa using List.find?_some h
  · rintro rfl
    cases symbol <;> rfl

@[simp] theorem ofByte?_byte (symbol : MaskSymbol) : ofByte? symbol.byte = some symbol :=
  ofByte?_eq_some_iff.mpr rfl

@[simp] theorem byte_ne_zero (symbol : MaskSymbol) : symbol.byte ≠ 0 := by
  cases symbol <;> decide

@[simp] theorem encode_char (symbol : MaskSymbol) :
    String.utf8EncodeChar symbol.char = [symbol.byte] := by
  cases symbol <;> rfl

end MaskSymbol

namespace Mask

/-- The characters that stand for symbols. -/
def IsSymbolChar (c : Char) : Prop :=
  '1' ≤ c ∧ c ≤ '5'

/-- The part of a text in front of its first zero character. -/
def readable (text : String) : List Char :=
  text.toList.takeWhile (· != '\x00')

theorem isSymbolChar_iff {c : Char} : IsSymbolChar c ↔ ∃ symbol : MaskSymbol, symbol.char = c := by
  constructor
  · rintro ⟨hlow, hhigh⟩
    have hlow : 49 ≤ c.toNat := hlow
    have hhigh : c.toNat ≤ 53 := hhigh
    have hcode : ∀ n : Nat, c.toNat = n → Char.ofNat n = c := by
      rintro n rfl
      exact Char.ofNat_toNat c
    obtain h | h | h | h | h : c.toNat = 49 ∨ c.toNat = 50 ∨ c.toNat = 51 ∨ c.toNat = 52 ∨
        c.toNat = 53 := by omega
    · exact ⟨.skip, hcode _ h⟩
    · exact ⟨.pointer, hcode _ h⟩
    · exact ⟨.string, hcode _ h⟩
    · exact ⟨.bigNum, hcode _ h⟩
    · exact ⟨.union, hcode _ h⟩
  · rintro ⟨symbol, rfl⟩
    cases symbol <;> exact ⟨by decide, by decide⟩

@[simp] theorem encode_map_char (symbols : List MaskSymbol) :
    Utf8.encode (symbols.map MaskSymbol.char) = symbols.map MaskSymbol.byte := by
  induction symbols with
  | nil => rfl
  | cons symbol rest ih => simp [ih]

/-- A character that is no symbol starts with a byte that is none. -/
theorem lead_of_stray {c : Char} (hsymbol : ¬IsSymbolChar c) (hzero : c ≠ '\x00') :
    ∃ lead more, String.utf8EncodeChar c = lead :: more ∧ lead ≠ 0 ∧
      MaskSymbol.ofByte? lead = none := by
  have hnone : ∀ lead : UInt8, (∀ symbol : MaskSymbol, symbol.byte ≠ lead) →
      MaskSymbol.ofByte? lead = none := by
    intro lead hlead
    rw [Option.eq_none_iff_forall_ne_some]
    intro symbol hfound
    exact hlead symbol (MaskSymbol.ofByte?_eq_some_iff.mp hfound)
  rcases Utf8.encodeChar_cases c with ⟨hascii, hbytes⟩ | ⟨-, lead, more, hbytes, hhigh⟩
  · have hcode : (UInt8.ofNat c.toNat).toNat = c.toNat := by
      simp
      omega
    refine ⟨_, _, hbytes, ?_, hnone _ ?_⟩
    · intro h
      rw [h] at hcode
      exact hzero (Char.toNat_inj.mp hcode.symm)
    · intro symbol hsame
      rw [← hsame] at hcode
      have hchar : symbol.byte.toNat = symbol.char.toNat := by cases symbol <;> rfl
      exact hsymbol (isSymbolChar_iff.mpr ⟨symbol, Char.toNat_inj.mp (hchar.symm.trans hcode)⟩)
  · have hlead := hhigh lead List.mem_cons_self
    refine ⟨lead, more, hbytes, ?_, hnone _ ?_⟩
    · rintro rfl
      exact absurd hlead (by decide)
    · rintro symbol rfl
      revert hlead
      cases symbol <;> decide

/-! ### The two outcomes -/

theorem parseFrom_byte (text : List Char) (position : Nat) (symbol : MaskSymbol)
    (tail : List UInt8) :
    parseFrom text position (symbol.byte :: tail) =
      (parseFrom text (position + 1) tail).map (symbol :: ·) := by
  simp [parseFrom]

/-- Symbols are read up to the end or a zero byte. -/
theorem parseFrom_symbols {text : List Char} {position : Nat} (symbols : List MaskSymbol)
    {tail : List UInt8} (htail : ∀ byte ∈ tail.head?, byte = 0) :
    parseFrom text position (symbols.map MaskSymbol.byte ++ tail) = .ok symbols := by
  induction symbols generalizing position with
  | nil =>
    cases tail with
    | nil => rfl
    | cons byte more =>
      obtain rfl : byte = 0 := htail byte rfl
      rfl
  | cons symbol rest ih =>
    rw [List.map_cons, List.cons_append, parseFrom_byte, ih]
    rfl

/-- A byte that is no symbol is reported at its position. -/
theorem parseFrom_stray {text : List Char} {position : Nat} (symbols : List MaskSymbol)
    {lead : UInt8} (hzero : lead ≠ 0) (hlead : MaskSymbol.ofByte? lead = none)
    (tail : List UInt8) :
    parseFrom text position (symbols.map MaskSymbol.byte ++ lead :: tail) =
      .error (strayAt text (position + symbols.length)) := by
  induction symbols generalizing position with
  | nil => simp [parseFrom, hzero, hlead]
  | cons symbol rest ih =>
    have hnext : position + 1 + rest.length = position + (symbol :: rest).length :=
      Nat.add_right_comm position 1 rest.length
    rw [List.map_cons, List.cons_append, parseFrom_byte, ih, hnext]
    rfl

variable {text : String}

/-- A text with the bytes of symbols, up to its end or a zero byte, is a mask. -/
theorem parse_of_symbols {symbols : List MaskSymbol} {tail : List UInt8}
    (htext : Utf8.encode text.toList = symbols.map MaskSymbol.byte ++ tail)
    (htail : ∀ byte ∈ tail.head?, byte = 0) : parse text = .ok ⟨symbols⟩ := by
  rw [parse, htext, parseFrom_symbols symbols htail]
  rfl

/-- The first character that is neither a symbol nor zero is reported as a whole, at the position
    of its first byte. -/
theorem parse_of_stray {symbols : List MaskSymbol} {c : Char} {back : List Char}
    (htext : text.toList = symbols.map MaskSymbol.char ++ c :: back) (hsymbol : ¬IsSymbolChar c)
    (hzero : c ≠ '\x00') :
    parse text =
      .error (.invalidSymbol c (Utf8.encode (symbols.map MaskSymbol.char)).length) := by
  obtain ⟨lead, more, hbytes, hlead, hnone⟩ := lead_of_stray hsymbol hzero
  have hchar := Utf8.charAt?_append (symbols.map MaskSymbol.char) c back
  have hposition : 0 + symbols.length = (Utf8.encode (symbols.map MaskSymbol.char)).length := by
    simp
  have hencode : Utf8.encode text.toList =
      symbols.map MaskSymbol.byte ++ lead :: (more ++ Utf8.encode back) := by
    simp [htext, hbytes]
  rw [parse, hencode, parseFrom_stray symbols hlead hnone, hposition, strayAt, htext, hchar]
  rfl

/-! ### All texts -/

/-- A text is its readable part, and nothing or a zero character behind it. -/
theorem exists_readable_append (text : String) :
    ∃ back, text.toList = readable text ++ back ∧ ∀ byte ∈ (Utf8.encode back).head?, byte = 0 := by
  refine ⟨text.toList.dropWhile (· != '\x00'), List.takeWhile_append_dropWhile.symm, ?_⟩
  have hhead := List.head?_dropWhile_not (· != '\x00') text.toList
  cases hback : text.toList.dropWhile (· != '\x00') with
  | nil => simp
  | cons c back =>
    rw [hback] at hhead
    obtain rfl : c = '\x00' := by simpa using hhead
    rintro byte hbyte
    exact (Option.some.inj hbyte).symm

/-- Characters are symbols as far as the first one that is none. -/
theorem symbols_or_stray (chars : List Char) :
    (∃ symbols : List MaskSymbol, chars = symbols.map MaskSymbol.char) ∨
      ∃ (symbols : List MaskSymbol) (c : Char) (back : List Char),
        chars = symbols.map MaskSymbol.char ++ c :: back ∧ ¬IsSymbolChar c := by
  induction chars with
  | nil => exact .inl ⟨[], rfl⟩
  | cons c chars ih =>
    by_cases hc : IsSymbolChar c
    · obtain ⟨symbol, rfl⟩ := isSymbolChar_iff.mp hc
      rcases ih with ⟨symbols, rfl⟩ | ⟨symbols, d, back, rfl, hd⟩
      · exact .inl ⟨symbol :: symbols, rfl⟩
      · exact .inr ⟨symbol :: symbols, d, back, rfl, hd⟩
    · exact .inr ⟨[], c, chars, rfl, hc⟩

theorem forall_isSymbolChar_map (symbols : List MaskSymbol) :
    ∀ c ∈ symbols.map MaskSymbol.char, IsSymbolChar c := by
  intro c hc
  obtain ⟨symbol, -, hsymbol⟩ := List.mem_map.mp hc
  exact isSymbolChar_iff.mpr ⟨symbol, hsymbol⟩

/-- Symbol characters are the text of a mask. -/
theorem exists_symbols {chars : List Char} (h : ∀ c ∈ chars, IsSymbolChar c) :
    ∃ symbols : List MaskSymbol, chars = symbols.map MaskSymbol.char := by
  rcases symbols_or_stray chars with hsymbols | ⟨symbols, c, back, rfl, hc⟩
  · exact hsymbols
  · exact absurd (h c (by simp)) hc

theorem ne_zero_of_mem_readable {c : Char} (h : c ∈ readable text) : c ≠ '\x00' := by
  have hall := List.all_eq_true.mp (List.all_takeWhile (p := (· != '\x00')) (l := text.toList))
  simpa using hall c h

theorem toList_text (mask : Mask) : mask.text.toList = mask.symbols.map MaskSymbol.char :=
  String.toList_ofList

/-- The outcome for a readable part of symbols. -/
theorem parse_of_readable_symbols {symbols : List MaskSymbol}
    (h : readable text = symbols.map MaskSymbol.char) : parse text = .ok ⟨symbols⟩ := by
  obtain ⟨back, htext, hback⟩ := exists_readable_append text
  refine parse_of_symbols ?_ hback
  rw [htext, h, Utf8.encode_append, encode_map_char]

/-- The outcome for a readable part with another character. The text can be cut in front of it. -/
theorem parse_of_readable_stray {symbols : List MaskSymbol} {c : Char} {back : List Char}
    (h : readable text = symbols.map MaskSymbol.char ++ c :: back) (hc : ¬IsSymbolChar c) :
    parse text = .error (.invalidSymbol c (Utf8.encode (symbols.map MaskSymbol.char)).length) ∧
      ∃ tail, Utf8.dropBytes? (Utf8.encode (symbols.map MaskSymbol.char)).length text.toList =
        some (c :: tail) := by
  obtain ⟨behind, htext, -⟩ := exists_readable_append text
  have hzero : c ≠ '\x00' := ne_zero_of_mem_readable (by rw [h]; simp)
  rw [h, List.append_assoc, List.cons_append] at htext
  refine ⟨parse_of_stray htext hc hzero, back ++ behind, ?_⟩
  rw [htext, Utf8.dropBytes?_append]

/-- A text is read as the mask whose text is the readable part. -/
theorem parse_eq_ok_iff {mask : Mask} :
    parse text = .ok mask ↔ mask.text.toList = readable text := by
  rw [toList_text]
  constructor
  · intro hmask
    rcases symbols_or_stray (readable text) with ⟨symbols, h⟩ | ⟨symbols, c, back, h, hc⟩
    · rw [parse_of_readable_symbols h] at hmask
      cases hmask
      exact h.symm
    · rw [(parse_of_readable_stray h hc).1] at hmask
      cases hmask
  · intro h
    exact parse_of_readable_symbols h.symm

/-- The first character of the readable part that is no symbol is reported, at a position where the
    text can be cut. -/
theorem parse_eq_error_iff {error : MaskError} :
    parse text = .error error ↔
      ∃ front c back, readable text = front ++ c :: back ∧ (∀ d ∈ front, IsSymbolChar d) ∧
        ¬IsSymbolChar c ∧ error = .invalidSymbol c (Utf8.encode front).length ∧
        ∃ tail, Utf8.dropBytes? (Utf8.encode front).length text.toList = some (c :: tail) := by
  constructor
  · intro herror
    rcases symbols_or_stray (readable text) with ⟨symbols, h⟩ | ⟨symbols, c, back, h, hc⟩
    · rw [parse_of_readable_symbols h] at herror
      cases herror
    · obtain ⟨hparse, hcut⟩ := parse_of_readable_stray h hc
      rw [hparse] at herror
      cases herror
      exact ⟨_, c, back, h, forall_isSymbolChar_map symbols, hc, rfl, hcut⟩
  · rintro ⟨front, c, back, h, hfront, hc, rfl, -⟩
    obtain ⟨symbols, rfl⟩ := exists_symbols hfront
    exact (parse_of_readable_stray h hc).1

theorem encode_eq (mask : Mask) : mask.encode = Utf8.encode mask.text.toList ++ [0] := by
  rw [toList_text, encode_map_char]
  rfl

/-- The readable part of a text has the bytes in front of the first zero byte. A mask is read
    exactly when all its characters are symbols, and then it is shown as this part and stored as
    its bytes and a zero. Otherwise the first character that is no symbol is reported, as a whole
    and at the position of its first byte, where the text can be cut. Every mask is read back from
    its text, and from its stored bytes whatever follows them. -/
theorem parse_readable (text : String) :
    Utf8.encode (readable text) = (Utf8.encode text.toList).takeWhile (· != 0) ∧
      ((∃ mask, parse text = .ok mask) ↔ ∀ c ∈ readable text, IsSymbolChar c) ∧
      (∀ mask, parse text = .ok mask ↔
        mask.text = String.ofList (readable text) ∧
          mask.encode = Utf8.encode (readable text) ++ [0]) ∧
      (∀ error, parse text = .error error ↔
        ∃ front c back, readable text = front ++ c :: back ∧ (∀ d ∈ front, IsSymbolChar d) ∧
          ¬IsSymbolChar c ∧ error = .invalidSymbol c (Utf8.encode front).length ∧
          ∃ tail, Utf8.dropBytes? (Utf8.encode front).length text.toList = some (c :: tail)) ∧
      ∀ mask : Mask, parse mask.text = .ok mask ∧ ∀ tail : String,
        Utf8.encode (mask.text ++ "\x00" ++ tail).toList = mask.encode ++ Utf8.encode tail.toList ∧
          parse (mask.text ++ "\x00" ++ tail) = .ok mask := by
  refine ⟨(@Utf8.takeWhile_encode '\x00' (by decide) text.toList).symm, ?_, ?_,
    fun error => parse_eq_error_iff, ?_⟩
  · simp only [parse_eq_ok_iff]
    constructor
    · rintro ⟨mask, hmask⟩ c hc
      rw [← hmask, toList_text] at hc
      exact forall_isSymbolChar_map mask.symbols c hc
    · intro hall
      obtain ⟨symbols, hsymbols⟩ := exists_symbols hall
      exact ⟨⟨symbols⟩, (toList_text ⟨symbols⟩).trans hsymbols.symm⟩
  · intro mask
    rw [parse_eq_ok_iff, encode_eq, ← String.toList_inj, String.toList_ofList]
    constructor
    · intro hmask
      exact ⟨hmask, by rw [hmask]⟩
    · exact And.left
  · intro mask
    have hbytes : ∀ tail : String, Utf8.encode (mask.text ++ "\x00" ++ tail).toList =
        mask.symbols.map MaskSymbol.byte ++ (0 :: Utf8.encode tail.toList) := by
      intro tail
      have hzero : Utf8.encode "\x00".toList = [0] := rfl
      rw [String.toList_append, String.toList_append, toList_text, Utf8.encode_append,
        Utf8.encode_append, encode_map_char, hzero, List.append_assoc, List.singleton_append]
    have htext : Utf8.encode mask.text.toList = mask.symbols.map MaskSymbol.byte ++ [] := by
      rw [toList_text, encode_map_char, List.append_nil]
    refine ⟨parse_of_symbols htext (by simp), fun tail => ⟨?_, ?_⟩⟩
    · rw [hbytes, encode, List.append_assoc, List.singleton_append]
    · exact parse_of_symbols (hbytes tail) (by simp)

/-- A character of two bytes is reported as one, and one behind a zero byte is not looked at. -/
theorem parse_readable_of_accents :
    parse "31é2" = .error (.invalidSymbol 'é' 2) ∧ parse "31\x00é" = .ok ⟨[.string, .skip]⟩ := by
  obtain ⟨-, -, -, hstray, -⟩ := parse_readable "31é2"
  obtain ⟨-, -, hread, -⟩ := parse_readable "31\x00é"
  refine ⟨(hstray _).mpr ⟨['3', '1'], 'é', ['2'], rfl, ?_, ?_, rfl, ['2'], rfl⟩,
    (hread ⟨[.string, .skip]⟩).mpr ⟨rfl, rfl⟩⟩
  · simp [IsSymbolChar]
  · simp [IsSymbolChar]

end Mask

end ProgramImage
