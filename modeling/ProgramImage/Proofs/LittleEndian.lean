import ProgramImage.Number.LittleEndian

/-!
# Round trips of little-endian numbers

A number that fits its width is what its bytes decode to, without a sign and in two's
complement, and bytes are those of the number that they decode to. Each byte is the digit of
the number at its place.
-/

namespace ProgramImage

namespace LittleEndian

/-- The number of values that some bytes can take. -/
def bound (width : Nat) : Nat :=
  Nat.pow 256 width

theorem bound_zero : bound 0 = 1 := rfl

theorem bound_succ (width : Nat) : bound (width + 1) = 256 * bound width :=
  Nat.mul_comm _ _

theorem bound_pos (width : Nat) : 0 < bound width :=
  Nat.pow_pos (by decide)

@[simp] theorem length_encode (width n : Nat) : (encode width n).length = width := by
  induction width generalizing n with
  | zero => rfl
  | succ width ih => rw [encode, List.length_cons, ih]

@[simp] theorem length_encodeInt (width : Nat) (i : Int) : (encodeInt width i).length = width :=
  length_encode width _

/-- Bytes decode to the part of a number that they have room for. -/
theorem decode_encode (width n : Nat) : decode (encode width n) = n % bound width := by
  induction width generalizing n with
  | zero => rw [bound_zero, Nat.mod_one]; rfl
  | succ width ih =>
    have hbyte : (UInt8.ofNat n).toNat = n % 256 := UInt8.toNat_ofNat'
    rw [encode, decode, ih, hbyte, bound_succ, Nat.mod_mul]

theorem decode_encode_of_lt {width n : Nat} (h : n < bound width) :
    decode (encode width n) = n := by
  rw [decode_encode, Nat.mod_eq_of_lt h]

theorem encode_zero (width : Nat) : encode width 0 = List.replicate width 0 := by
  induction width with
  | zero => rfl
  | succ width ih => rw [encode, Nat.zero_div, ih]; rfl

theorem decode_replicate_zero (width : Nat) : decode (List.replicate width 0) = 0 := by
  rw [← encode_zero, decode_encode, Nat.zero_mod]

/-- A byte of a number is its digit at that place. -/
theorem getElem?_encode {width i : Nat} (n : Nat) (h : i < width) :
    (encode width n)[i]? = some (UInt8.ofNat (n / bound i)) := by
  induction width generalizing n i with
  | zero => exact absurd h (Nat.not_lt_zero i)
  | succ width ih =>
    rw [encode]
    cases i with
    | zero => rw [List.getElem?_cons_zero, bound_zero, Nat.div_one]
    | succ i =>
      rw [List.getElem?_cons_succ, ih _ (Nat.lt_of_succ_lt_succ h), Nat.div_div_eq_div_mul,
        bound_succ]

theorem decode_lt (bytes : List UInt8) : decode bytes < bound bytes.length := by
  induction bytes with
  | nil => exact bound_pos 0
  | cons byte rest ih =>
    have hbyte : byte.toNat < 256 := byte.toNat_lt
    rw [decode, List.length_cons, bound_succ]
    omega

/-- Bytes are those of the number that they stand for. -/
theorem encode_decode (bytes : List UInt8) : encode bytes.length (decode bytes) = bytes := by
  induction bytes with
  | nil => rfl
  | cons byte rest ih =>
    have hbyte : byte.toNat < 256 := byte.toNat_lt
    have hlow : UInt8.ofNat (byte.toNat + 256 * decode rest) = byte := by
      rw [← UInt8.toNat_inj, UInt8.toNat_ofNat']
      omega
    have hhigh : (byte.toNat + 256 * decode rest) / 256 = decode rest := by omega
    rw [decode, List.length_cons, encode, hlow, hhigh, ih]

theorem decode_append (bytes others : List UInt8) :
    decode (bytes ++ others) = decode bytes + bound bytes.length * decode others := by
  induction bytes with
  | nil => rw [List.nil_append, decode, List.length_nil, bound_zero, Nat.zero_add, Nat.one_mul]
  | cons byte rest ih =>
    rw [List.cons_append, decode, ih, decode, List.length_cons, bound_succ, Nat.mul_assoc]
    omega

theorem decode_eq_zero_iff {bytes : List UInt8} : decode bytes = 0 ↔ ∀ byte ∈ bytes, byte = 0 := by
  induction bytes with
  | nil => simp [decode]
  | cons byte rest ih =>
    have hbyte : byte.toNat = 0 ↔ byte = 0 := by
      rw [← UInt8.toNat_inj]
      exact Iff.rfl
    rw [decode, List.forall_mem_cons, ← ih, ← hbyte]
    omega

/-- An integer of at most half the width on either side is what its bytes decode to. -/
theorem decodeInt_encodeInt {width : Nat} {i : Int} (hlow : -(bound width : Int) ≤ 2 * i)
    (hhigh : 2 * i < bound width) : decodeInt (encodeInt width i) = i := by
  have hpos := bound_pos width
  have hcount : Nat.pow 256 width = bound width := rfl
  unfold decodeInt
  rw [length_encodeInt, encodeInt, hcount, decode_encode]
  simp only [Int.ofNat_eq_natCast]
  generalize bound width = count at *
  -- in two's complement a negative number stands for itself and all values together
  by_cases hi : 0 ≤ i
  · have hmod : i % (count : Int) = i := Int.emod_eq_of_lt hi (by omega)
    rw [hmod, Nat.mod_eq_of_lt (by omega), if_pos (by omega)]
    omega
  · have hmod : i % (count : Int) = i + count := by
      rw [← Int.add_emod_right, Int.emod_eq_of_lt (by omega) (by omega)]
    rw [hmod, Nat.mod_eq_of_lt (by omega), if_neg (by omega)]
    omega

end LittleEndian

end ProgramImage
