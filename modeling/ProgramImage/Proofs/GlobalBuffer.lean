import ProgramImage.Memory
import ProgramImage.Proofs.LittleEndian

/-!
# Content of the global buffer

The content of a buffer is the list `toList` of its bytes. A write puts its bytes in
their range and leaves all others as they are; it never changes the size. A read gives
the bytes of its range, so whoever knows the content place by place knows what is read.

## Main statements

* `GlobalStore.getElem?_overwrite` is the byte at any place after a write.
* `GlobalStore.write_of_le`, `GlobalStore.read_of_le` and `Memory.write_of_le` are the accesses that
  are admitted, and the same names with `lt` those that are refused.
* `GlobalStore.read_eq_ok` and the readers after it read back what the places hold.
-/

namespace ProgramImage

namespace GlobalStore

theorem length_toList (store : GlobalStore) : store.toList.length = store.size := rfl

/-! ### Zeros -/

theorem data_appendZeros (bytes : ByteArray) (n : Nat) :
    (appendZeros bytes n).data.toList = bytes.data.toList ++ List.replicate n 0 := by
  induction n generalizing bytes with
  | zero => rw [appendZeros, List.replicate_zero, List.append_nil]
  | succ n ih =>
    have hpush : (bytes.push 0).data.toList = bytes.data.toList ++ [0] := Array.toList_push
    rw [appendZeros, ih, hpush, List.append_assoc]
    rfl

@[simp] theorem toList_zeros (size : Nat) (mask : Mask) :
    (zeros size mask).toList = List.replicate size 0 := by
  unfold toList zeros
  rw [data_appendZeros]
  rfl

@[simp] theorem size_zeros (size : Nat) (mask : Mask) : (zeros size mask).size = size := by
  rw [← length_toList, toList_zeros, List.length_replicate]

/-! ### Writes -/

theorem data_setBytes (bytes : ByteArray) (offset : Nat) (content : List UInt8) (j : Nat) :
    (setBytes bytes offset content).data[j]? =
      if offset ≤ j ∧ j < offset + content.length ∧ j < bytes.size then content[j - offset]?
      else bytes.data[j]? := by
  induction content generalizing bytes offset with
  | nil => rw [setBytes, if_neg (by simp; omega)]
  | cons byte rest ih =>
    have hdata : (bytes.set! offset byte).data = bytes.data.setIfInBounds offset byte := rfl
    have hsize : (bytes.set! offset byte).size = bytes.size := by
      rw [← ByteArray.size_data, hdata, Array.size_setIfInBounds, ByteArray.size_data]
    -- the first byte is written before the others, whose range starts behind it
    rw [setBytes, ih, hsize, hdata, Array.getElem?_setIfInBounds, List.length_cons]
    by_cases hj : offset = j
    · subst j
      rw [if_neg (by omega), if_pos rfl, Nat.sub_self, List.getElem?_cons_zero]
      by_cases hin : offset < bytes.size
      · rw [if_pos (by rwa [ByteArray.size_data]), if_pos (by omega)]
      · rw [if_neg (by rwa [ByteArray.size_data]), if_neg (by omega)]
        exact (Array.getElem?_eq_none (by rw [ByteArray.size_data]; omega)).symm
    · rw [if_neg hj]
      by_cases hin : offset + 1 ≤ j ∧ j < offset + 1 + rest.length ∧ j < bytes.size
      · have hsub : j - offset = j - (offset + 1) + 1 := by omega
        rw [if_pos hin, if_pos (by omega), hsub, List.getElem?_cons_succ]
      · rw [if_neg hin, if_neg (by omega)]

/-- The byte at a place after a write: the new one within the range, the old one
    outside. -/
theorem getElem?_overwrite (store : GlobalStore) (offset : Nat) (content : List UInt8)
    (j : Nat) :
    (store.overwrite offset content).toList[j]? =
      if offset ≤ j ∧ j < offset + content.length ∧ j < store.size then content[j - offset]?
      else store.toList[j]? := by
  have h := data_setBytes store.bytes offset content j
  rw [← Array.getElem?_toList, ← Array.getElem?_toList] at h
  exact h

@[simp] theorem size_overwrite (store : GlobalStore) (offset : Nat) (content : List UInt8) :
    (store.overwrite offset content).size = store.size := by
  unfold overwrite size
  induction content generalizing store offset with
  | nil => rfl
  | cons byte rest ih =>
    have hset : (store.bytes.set! offset byte).size = store.bytes.size := by
      rw [← ByteArray.size_data, ← ByteArray.size_data]
      exact Array.size_setIfInBounds
    exact (ih ⟨store.bytes.set! offset byte, store.mask⟩ (offset + 1)).trans hset

@[simp] theorem mask_overwrite (store : GlobalStore) (offset : Nat) (content : List UInt8) :
    (store.overwrite offset content).mask = store.mask := rfl

theorem getElem?_overwrite_outside {store : GlobalStore} {offset : Nat} {content : List UInt8}
    {j : Nat} (h : ¬(offset ≤ j ∧ j < offset + content.length)) :
    (store.overwrite offset content).toList[j]? = store.toList[j]? := by
  rw [getElem?_overwrite, if_neg (fun hin => h ⟨hin.1, hin.2.1⟩)]

theorem write_of_le {store : GlobalStore} {offset : Nat} {content : List UInt8}
    (h : offset + content.length ≤ store.size) :
    store.write offset content = .ok (store.overwrite offset content) := by
  simp [write, checkRange, h]

theorem write_of_lt {store : GlobalStore} {offset : Nat} {content : List UInt8}
    (h : store.size < offset + content.length) :
    store.write offset content =
      .error (.outOfBounds offset content.length store.size) := by
  simp [write, checkRange, Nat.not_le_of_lt h]

/-! ### Reads -/

theorem get!_eq {store : GlobalStore} {j : Nat} {byte : UInt8} (h : store.toList[j]? = some byte) :
    store.bytes.get! j = byte := by
  have hdata : store.bytes.data[j]? = some byte := by
    rw [← Array.getElem?_toList]
    exact h
  change store.bytes.data[j]! = byte
  rw [getElem!_def, hdata]

/-- Reading gives the bytes that the places of the range hold. -/
theorem map_get!_eq {store : GlobalStore} {offset : Nat} {content : List UInt8}
    (h : ∀ i < content.length, store.toList[offset + i]? = content[i]?) :
    ((List.range content.length).map fun i => store.bytes.get! (offset + i)) = content := by
  apply List.ext_getElem?
  intro i
  rw [List.getElem?_map]
  by_cases hi : i < content.length
  · have hplace := h i hi
    rw [List.getElem?_eq_getElem hi] at hplace
    rw [List.getElem?_range hi, List.getElem?_eq_getElem hi, Option.map_some, get!_eq hplace]
  · rw [List.getElem?_eq_none (by simpa using hi), List.getElem?_eq_none (by omega)]
    rfl

theorem checkRange_eq_ok {store : GlobalStore} {offset length : Nat} :
    store.checkRange offset length = .ok () ↔ offset + length ≤ store.size := by
  unfold checkRange
  split <;> simp_all

/-- A range that holds some bytes place by place is read as those bytes. -/
theorem read_eq_ok {store : GlobalStore} {offset : Nat} {content : List UInt8}
    (hfits : offset + content.length ≤ store.size)
    (h : ∀ i < content.length, store.toList[offset + i]? = content[i]?) :
    store.read offset content.length = .ok content := by
  unfold read
  rw [checkRange_eq_ok.mpr hfits, map_get!_eq h]

/-- A range that lies inside the buffer is read as the part of the content there. -/
theorem read_of_le {store : GlobalStore} {offset length : Nat} (h : offset + length ≤ store.size) :
    store.read offset length = .ok ((store.toList.drop offset).take length) := by
  have hlength : ((store.toList.drop offset).take length).length = length := by
    simp only [List.length_take, List.length_drop, length_toList]
    omega
  conv => lhs; rw [← hlength]
  apply read_eq_ok
  · rw [hlength]
    exact h
  · intro i hi
    rw [hlength] at hi
    simp only [List.getElem?_take_of_lt hi, List.getElem?_drop]

theorem read_of_lt {store : GlobalStore} {offset length : Nat} (h : store.size < offset + length) :
    store.read offset length = .error (.outOfBounds offset length store.size) := by
  simp [read, checkRange, Nat.not_le_of_lt h]

/-- A natural number that fits its width is read back from its bytes. -/
theorem readNat_encode {store : GlobalStore} {offset width n : Nat}
    (hn : n < LittleEndian.bound width)
    (h : store.read offset width = .ok (LittleEndian.encode width n)) :
    store.readNat width offset = .ok n := by
  rw [readNat, h]
  exact congrArg Except.ok (LittleEndian.decode_encode_of_lt hn)

theorem readInt_encode {store : GlobalStore} {offset width : Nat} {i : Int}
    (hlow : -(LittleEndian.bound width : Int) ≤ 2 * i) (hhigh : 2 * i < LittleEndian.bound width)
    (h : store.read offset width = .ok (LittleEndian.encodeInt width i)) :
    store.readInt width offset = .ok i := by
  rw [readInt, h]
  exact congrArg Except.ok (LittleEndian.decodeInt_encodeInt hlow hhigh)

end GlobalStore

/-! ### The buffer of a memory -/

namespace Memory

variable {memory later : Memory} {offset : Nat} {content : List UInt8}

theorem write_of_le (h : offset + content.length ≤ memory.globals.size) :
    memory.write offset content =
      (.ok (), { memory with globals := memory.globals.overwrite offset content }) := by
  simp [write, GlobalStore.checkRange, h]

/-- A memory that refuses a write stays as it is. -/
theorem write_of_lt (h : memory.globals.size < offset + content.length) :
    memory.write offset content =
      (.error (.outOfBounds offset content.length memory.globals.size), memory) := by
  simp [write, GlobalStore.checkRange, Nat.not_le_of_lt h]

theorem write_eq_ok_iff :
    memory.write offset content = (.ok (), later) ↔
      offset + content.length ≤ memory.globals.size ∧
        later = { memory with globals := memory.globals.overwrite offset content } := by
  by_cases hfits : offset + content.length ≤ memory.globals.size
  · rw [write_of_le hfits]
    simp [hfits, eq_comm]
  · rw [write_of_lt (Nat.lt_of_not_le hfits)]
    simp [hfits]

end Memory

end ProgramImage
