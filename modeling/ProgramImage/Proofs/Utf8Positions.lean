import ProgramImage.Text.Utf8

/-!
# Byte positions of a text

The bytes of a character that is not ASCII are all above the ASCII codes. So a byte that is one
stands alone for its character, wherever it is found, and a search for it gives the same part of
a text over bytes as over characters. A position is between two characters exactly when the bytes
in front of it are those of a part of the text.

## Main statements

* `Utf8.encodeChar_cases` tells the bytes of a character from each other.
* `Utf8.takeWhile_encode` cuts a text in front of a character by its byte.
* `Utf8.dropBytes?_append` cuts a text at the position behind some characters.
-/

namespace ProgramImage

namespace Utf8

@[simp] theorem encode_nil : encode [] = [] :=
  rfl

@[simp] theorem encode_cons (c : Char) (text : List Char) :
    encode (c :: text) = String.utf8EncodeChar c ++ encode text :=
  rfl

@[simp] theorem encode_append (first second : List Char) :
    encode (first ++ second) = encode first ++ encode second :=
  List.flatMap_append

/-- An ASCII character is one byte, its code. Another character has bytes above all ASCII codes,
    and one at least. -/
theorem encodeChar_cases (c : Char) :
    (c.toNat ≤ 127 ∧ String.utf8EncodeChar c = [UInt8.ofNat c.toNat]) ∨
      (127 < c.toNat ∧ ∃ lead more, String.utf8EncodeChar c = lead :: more ∧
        ∀ byte ∈ lead :: more, 127 < byte.toNat) := by
  have hcode : c.val.toNat = c.toNat := rfl
  by_cases hascii : c.toNat ≤ 127
  · exact .inl ⟨hascii, by simp [String.utf8EncodeChar, hcode, hascii]⟩
  refine .inr ⟨Nat.lt_of_not_le hascii, ?_⟩
  -- two, three or four bytes, each with its highest bit set
  simp only [String.utf8EncodeChar, hcode, hascii, if_false]
  split
  · exact ⟨_, _, rfl, by simp; omega⟩
  · split
    · exact ⟨_, _, rfl, by simp; omega⟩
    · exact ⟨_, _, rfl, by simp; omega⟩

/-- The part of a text in front of an ASCII character has the bytes in front of the byte of that
    character. -/
theorem takeWhile_encode {mark : Char} (hmark : mark.toNat ≤ 127) (text : List Char) :
    (encode text).takeWhile (· != UInt8.ofNat mark.toNat) =
      encode (text.takeWhile (· != mark)) := by
  have hbyte : (UInt8.ofNat mark.toNat).toNat = mark.toNat := by
    simp
    omega
  induction text with
  | nil => rfl
  | cons c text ih =>
    rcases encodeChar_cases c with ⟨hascii, hbytes⟩ | ⟨hhigh, lead, more, hbytes, hmore⟩
    · have hsame : UInt8.ofNat c.toNat = UInt8.ofNat mark.toNat ↔ c = mark := by
        rw [← UInt8.toNat_inj, hbyte, ← Char.toNat_inj]
        simp
        omega
      by_cases hc : c = mark
      · subst hc
        simp [hbytes]
      · simp [hbytes, hc, hsame, ih]
    · have hc : c ≠ mark := by
        rintro rfl
        omega
      have hall : ∀ byte ∈ lead :: more, byte ≠ UInt8.ofNat mark.toNat := by
        rintro byte hmem rfl
        have := hmore _ hmem
        omega
      rw [encode_cons, hbytes, List.takeWhile_append_of_pos (by simpa using hall), ih]
      simp [hc, hbytes]

/-- The position behind some characters is the number of their bytes. -/
theorem dropBytes?_append (front back : List Char) :
    dropBytes? (encode front).length (front ++ back) = some back := by
  induction front with
  | nil => simp [dropBytes?]
  | cons c front ih =>
    have hlength : (encode (c :: front)).length = c.utf8Size + (encode front).length := by
      simp [String.length_utf8EncodeChar]
    obtain ⟨n, hn⟩ : ∃ n, c.utf8Size + (encode front).length = n + 1 :=
      ⟨c.utf8Size + (encode front).length - 1, by have := c.utf8Size_pos; omega⟩
    have hrest : n + 1 - c.utf8Size = (encode front).length := by omega
    rw [hlength, hn, List.cons_append, dropBytes?, if_pos (by omega), hrest, ih]

theorem charAt?_append (front : List Char) (c : Char) (back : List Char) :
    charAt? (front ++ c :: back) (encode front).length = some c := by
  rw [charAt?, dropBytes?_append]
  rfl

end Utf8

end ProgramImage
