import ProgramImage.Proofs.HeapRun
import ProgramImage.Proofs.LittleEndian
import ProgramImage.Proofs.TypeTable
import ProgramImage.Literal

/-!
# The forms of a string

The length of a string decides its form. The empty string and strings of up to fifteen
bytes are held by their slot; a longer one is held by the smallest string buffer with
room for it, as long as there is one. The bytes of a slot tell the forms apart by their
last byte, so a slot that was written is read back as it was.

## Main definitions

* `StringSlot.ofContent` is the slot of a string, given the place of its heap object.
* `stringObject?` is the heap object of a string that its slot has no room for.
* `IsSmallestBuffer` says that no smaller buffer holds a string.

## Main statements

* `StringSlot.decode?_encode` reads back the slots that stand for a string.
* `Heap.allocate_eq_ok` is the effect of an allocation.
* `Literal.stringSlot_eq_ok` says what slot a string gets and what object it leaves.
-/

namespace ProgramImage

/-! ### Slots -/

namespace StringSlot

/-- The slot of a string. A long string is held by the heap object at `place`. -/
def ofContent (place : Nat) (content : List UInt8) : StringSlot :=
  if content.length = 0 then empty
  else if content.length ≤ maxInlineString then inline content
  else heap ⟨place⟩ content.length

@[simp] theorem length_padded {content : List UInt8} (h : content.length ≤ maxInlineString) :
    (padded content).length = maxInlineString := by
  unfold padded
  rw [List.length_append, List.length_replicate]
  omega

/-- The last byte of an inline slot is the length of its string. -/
theorem tag_inline {content : List UInt8} (h : content.length ≤ maxInlineString) :
    (encode (inline content))[maxInlineString]? = some (UInt8.ofNat content.length) := by
  rw [encode, List.getElem?_append_right (Nat.le_of_eq (length_padded h)), length_padded h]
  rfl

theorem tag_heap {obj : ObjectRef} {length : Nat} (h : length < 0x100000000000000) :
    (encode (heap obj length))[maxInlineString]? = some 0 := by
  have hplace : maxInlineString - 8 = 7 := rfl
  have hdigit : length / LittleEndian.bound 7 = 0 := Nat.div_eq_of_lt h
  rw [encode, List.getElem?_append_right (by rw [LittleEndian.length_encode]; decide),
    LittleEndian.length_encode, hplace, LittleEndian.getElem?_encode length (by decide), hdigit]
  rfl

theorem ofRaw?_raw (obj : ObjectRef) : ObjectRef.ofRaw? obj.raw = some obj := rfl

theorem all_eq_zero_iff {slot : List UInt8} :
    slot.all (· == 0) = true ↔ slot = List.replicate slot.length 0 := by
  rw [List.all_eq_true, List.eq_replicate_iff]
  simp

/-- A slot that stands for a string is read back from its bytes. -/
theorem decode?_encode {slot : StringSlot} (h : slot.WellFormed) :
    decode? slot.encode = some slot := by
  cases slot with
  | empty => rfl
  | inline content =>
    obtain ⟨hpos, hle⟩ := h
    have hbyte : (UInt8.ofNat content.length).toNat = content.length := by
      rw [UInt8.toNat_ofNat', Nat.mod_eq_of_lt]
      exact Nat.lt_of_le_of_lt hle (by decide)
    have hne : UInt8.ofNat content.length ≠ 0 := by
      intro hzero
      rw [hzero] at hbyte
      exact absurd hbyte.symm (by simpa using Nat.ne_of_gt hpos)
    -- the last byte is the length, so the slot is neither all zeros nor that of an object
    have htag : (encode (inline content)).getD maxInlineString 0 = UInt8.ofNat content.length := by
      rw [List.getD_eq_getElem?_getD, tag_inline hle]
      rfl
    have hnonzero : ¬(encode (inline content)).all (· == 0) = true := by
      intro hall
      rw [all_eq_zero_iff] at hall
      have hlast := tag_inline hle
      rw [hall, List.getElem?_replicate] at hlast
      split at hlast
      · exact hne (Option.some.inj hlast).symm
      · cases hlast
    have htake : (encode (inline content)).take content.length = content := by
      rw [encode, padded, List.append_assoc, List.take_left]
    have hshort : ofShort? content = some (inline content) := by
      unfold ofShort?
      rw [if_neg]
      simpa using ⟨List.ne_nil_of_length_pos hpos, hle⟩
    unfold decode?
    dsimp only
    rw [htag, if_neg hnonzero, if_pos hne, hbyte, if_neg (by omega), htake, hshort]
  | heap obj length =>
    obtain ⟨hraw, hlength⟩ := h
    have htag : (encode (heap obj length)).getD maxInlineString 0 = 0 := by
      rw [List.getD_eq_getElem?_getD, tag_heap hlength]
      rfl
    have htake : (encode (heap obj length)).take 8 = LittleEndian.encode 8 obj.raw :=
      List.take_left' (LittleEndian.length_encode 8 _)
    have hdrop : (encode (heap obj length)).drop 8 = LittleEndian.encode 8 length :=
      List.drop_left' (LittleEndian.length_encode 8 _)
    have hword : LittleEndian.decode (LittleEndian.encode 8 obj.raw) = obj.raw :=
      LittleEndian.decode_encode_of_lt (Nat.lt_of_le_of_lt hraw (by decide))
    have hcount : LittleEndian.decode (LittleEndian.encode 8 length) = length :=
      LittleEndian.decode_encode_of_lt (Nat.lt_trans hlength (by decide))
    have hnonzero : ¬(encode (heap obj length)).all (· == 0) = true := by
      intro hall
      rw [all_eq_zero_iff] at hall
      have hzero : LittleEndian.decode ((encode (heap obj length)).take 8) = 0 := by
        rw [hall, List.take_replicate, LittleEndian.decode_replicate_zero]
      rw [htake, hword] at hzero
      exact Nat.succ_ne_zero _ hzero
    unfold decode?
    dsimp only
    rw [htag, if_neg hnonzero, if_neg (by simp), htake, hdrop, hword, hcount, ofRaw?_raw]
    rfl

/-- The slot of a string stands for one, as long as a heap object that it needs has a number
    that fits a word. -/
theorem wellFormed_ofContent {place : Nat} {content : List UInt8}
    (hplace : maxInlineString < content.length → place < max64)
    (hlength : content.length ≤ maxBufferString) : (ofContent place content).WellFormed := by
  unfold ofContent
  by_cases hempty : content.length = 0
  · rw [if_pos hempty]
    trivial
  · rw [if_neg hempty]
    by_cases hshort : content.length ≤ maxInlineString
    · rw [if_pos hshort]
      exact ⟨Nat.pos_of_ne_zero hempty, hshort⟩
    · rw [if_neg hshort]
      exact ⟨hplace (Nat.lt_of_not_le hshort), Nat.lt_of_le_of_lt hlength (by decide)⟩

/-- Only a string that its slot has no room for gets a slot with an object. -/
theorem ofContent_eq_heap {place length : Nat} {content : List UInt8} {obj : ObjectRef}
    (h : ofContent place content = heap obj length) :
    obj = ⟨place⟩ ∧ maxInlineString < content.length := by
  unfold ofContent at h
  by_cases hempty : content.length = 0
  · rw [if_pos hempty] at h
    cases h
  rw [if_neg hempty] at h
  by_cases hshort : content.length ≤ maxInlineString
  · rw [if_pos hshort] at h
    cases h
  · rw [if_neg hshort] at h
    cases h
    exact ⟨rfl, Nat.lt_of_not_le hshort⟩

/-- The slot of a string takes sixteen bytes, whatever its form. -/
theorem length_encode_ofContent (place : Nat) (content : List UInt8) :
    (ofContent place content).encode.length = stringSlotSize := by
  unfold ofContent
  by_cases hempty : content.length = 0
  · rw [if_pos hempty]
    rfl
  · rw [if_neg hempty]
    by_cases hshort : content.length ≤ maxInlineString
    · rw [if_pos hshort, encode, List.length_append, length_padded hshort]
      rfl
    · rw [if_neg hshort, encode, List.length_append, LittleEndian.length_encode,
        LittleEndian.length_encode]
      rfl

end StringSlot

/-! ### Objects -/

/-- A buffer type is the smallest with room for a string of a given length. -/
def IsSmallestBuffer (length : Nat) (tid : TypeId) (capacity : Nat) : Prop :=
  (tid, capacity) ∈ Reserved.stringBuffers ∧ length ≤ capacity ∧
    ∀ other ∈ Reserved.stringBuffers, length ≤ other.2 → capacity ≤ other.2

/-- The heap object of a string, if its slot has no room for it: a young object of the
    smallest buffer type that has, with zeros behind the string. -/
def stringObject? (content : List UInt8) : Option HeapObject :=
  if content.length ≤ maxInlineString then none
  else (stringBufferFor? content.length).map fun (tid, capacity) =>
    ⟨.ofYoung tid, content ++ List.replicate (capacity - content.length) 0⟩

/-- There is a buffer for every length up to the capacity of the largest one. -/
theorem isSome_stringBufferFor?_iff {length : Nat} :
    (stringBufferFor? length).isSome = true ↔ length ≤ maxBufferString := by
  have hlargest : (⟨24⟩, maxBufferString) ∈ Reserved.stringBuffers := by decide
  have hcapacity : ∀ buffer ∈ Reserved.stringBuffers, buffer.2 ≤ maxBufferString := by decide
  unfold stringBufferFor?
  rw [List.find?_isSome]
  constructor
  · rintro ⟨buffer, hbuffer, hfits⟩
    exact Nat.le_trans (of_decide_eq_true hfits) (hcapacity buffer hbuffer)
  · intro hfits
    exact ⟨_, hlargest, decide_eq_true hfits⟩

/-- The buffer for a string is the smallest with room for it. -/
theorem isSmallestBuffer_of_stringBufferFor? {length : Nat} {tid : TypeId} {capacity : Nat}
    (h : stringBufferFor? length = some (tid, capacity)) :
    IsSmallestBuffer length tid capacity := by
  have hfits : length ≤ capacity := by simpa using List.find?_some h
  refine ⟨List.mem_of_find?_eq_some h, hfits, ?_⟩
  -- the buffers are listed by increasing capacity, so the first with room is the smallest
  have hsorted : Reserved.stringBuffers.Pairwise fun a b => a.2 ≤ b.2 := by decide
  obtain ⟨-, before, after, hsplit, hbefore⟩ := List.find?_eq_some_iff_append.mp h
  intro other hother hroom
  rw [hsplit, List.mem_append, List.mem_cons] at hother
  rcases hother with hother | rfl | hother
  · have hno := hbefore other hother
    simp only [Bool.not_eq_true', decide_eq_false_iff_not] at hno
    exact absurd hroom hno
  · exact Nat.le_refl _
  · rw [hsplit] at hsorted
    exact (List.pairwise_cons.mp (List.pairwise_append.mp hsorted).2.1).1 other hother

/-- A string has a heap object when it is longer than its slot and no longer than the
    largest buffer. -/
theorem stringObject?_eq_some {content : List UInt8} (hlong : maxInlineString < content.length)
    (hfits : content.length ≤ maxBufferString) :
    ∃ tid capacity, IsSmallestBuffer content.length tid capacity ∧
      stringObject? content =
        some ⟨.ofYoung tid, content ++ List.replicate (capacity - content.length) 0⟩ := by
  obtain ⟨⟨tid, capacity⟩, hfound⟩ :=
    Option.isSome_iff_exists.mp (isSome_stringBufferFor?_iff.mpr hfits)
  refine ⟨tid, capacity, isSmallestBuffer_of_stringBufferFor? hfound, ?_⟩
  unfold stringObject?
  rw [if_neg (by omega), hfound]
  rfl

theorem stringObject?_eq_none {content : List UInt8} (h : content.length ≤ maxInlineString) :
    stringObject? content = none :=
  if_pos h

/-- The strings with an object. -/
theorem isSome_stringObject?_iff {content : List UInt8} :
    (stringObject? content).isSome = true ↔
      maxInlineString < content.length ∧ content.length ≤ maxBufferString := by
  unfold stringObject?
  split
  · next hshort =>
    simp
    omega
  · next hlong =>
    rw [Option.isSome_map, isSome_stringBufferFor?_iff]
    omega

/-- The reserved descriptor of a string buffer has its capacity as heap size. -/
theorem reserved_stringBuffer {tid : TypeId} {capacity : Nat}
    (h : (tid, capacity) ∈ Reserved.stringBuffers) :
    ∃ desc, reservedDescriptors[tid.value]? = some desc ∧ desc.tid = tid ∧
      desc.size.heapSize = capacity := by
  simp only [Reserved.stringBuffers, List.mem_cons, List.not_mem_nil, or_false] at h
  rcases h with h | h | h | h | h
  all_goals
    cases h
    exact ⟨_, rfl, rfl, rfl⟩

/-- An allocation adds one object at the end of the heap: the payload, and zeros up to the
    heap size of its type. -/
theorem Heap.allocate_eq_ok {heap later : Heap} {desc : TypeDescriptor} {payload : List UInt8}
    {obj : ObjectRef} (h : heap.allocate desc payload = .ok (obj, later)) :
    obj = ⟨heap.count⟩ ∧ payload.length ≤ desc.size.heapSize ∧ desc.hasHeapForm ∧
      later.objects = heap.objects.push
        ⟨.ofYoung desc.tid,
          payload ++ List.replicate (desc.size.heapSize - payload.length) 0⟩ ∧
      later.roots = heap.roots := by
  obtain ⟨hnone, hobj, rfl⟩ := allocate_eq_ok_iff.mp h
  obtain ⟨-, hform, hlength, -⟩ := refusal?_eq_none_iff.mp hnone
  exact ⟨hobj, hlength, hform, rfl, rfl⟩

/-- A string gets the slot of its form, and leaves one object in the heap when that slot
    has no room for it. -/
theorem Literal.stringSlot_eq_ok {types : TypeTable} {heap later : Heap} {content : List UInt8}
    {slot : StringSlot} (htypes : types.HoldsReserved)
    (h : stringSlot types heap content = .ok (slot, later)) :
    slot = .ofContent heap.count content ∧
      later.objects.toList = heap.objects.toList ++ (stringObject? content).toList ∧
      later.roots = heap.roots := by
  unfold stringSlot at h
  by_cases hempty : content.length = 0
  · obtain rfl : content = [] := List.length_eq_zero_iff.mp hempty
    cases h
    exact ⟨rfl, by rw [stringObject?_eq_none (by decide)]; simp, rfl⟩
  · have hne : content.isEmpty = false := by
      rw [List.isEmpty_eq_false_iff]
      exact fun hnil => hempty (by rw [hnil]; rfl)
    rw [hne, if_neg Bool.false_ne_true] at h
    unfold StringSlot.ofShort? StringSlot.ofContent at *
    rw [if_neg hempty]
    by_cases hshort : content.length ≤ maxInlineString
    · rw [hne, Bool.false_or, if_neg (by simpa using hshort)] at h
      cases h
      exact ⟨if_pos hshort ▸ rfl, by rw [stringObject?_eq_none hshort]; simp, rfl⟩
    · rw [hne, Bool.false_or, if_pos (by simpa using hshort)] at h
      dsimp only at h
      rw [if_neg hshort]
      cases hbuffer : stringBufferFor? content.length with
      | none =>
        rw [hbuffer] at h
        cases h
      | some buffer =>
        obtain ⟨tid, capacity⟩ := buffer
        have hsmallest := isSmallestBuffer_of_stringBufferFor? hbuffer
        obtain ⟨desc, hdesc, htid, hsize⟩ := reserved_stringBuffer hsmallest.1
        rw [hbuffer] at h
        dsimp only at h
        rw [htypes tid desc hdesc] at h
        dsimp only at h
        split at h
        · next obj grown hallocate =>
          cases h
          obtain ⟨rfl, -, -, hobjects, hroots⟩ := Heap.allocate_eq_ok hallocate
          refine ⟨rfl, ?_, hroots⟩
          rw [hobjects, Array.toList_push, htid, hsize]
          unfold stringObject?
          rw [if_neg hshort, hbuffer]
          rfl
        · cases h

end ProgramImage
