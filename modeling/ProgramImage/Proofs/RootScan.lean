import ProgramImage.Heap
import ProgramImage.Proofs.GlobalBuffer
import ProgramImage.Proofs.StringForms

/-!
# What the root scan finds in a slot

The scan over the roots has its own way to tell which object a slot refers to. It finds
the same as reading the slot does: in a pointer slot the object that the word numbers, and
in a string slot the object of the heap form. Bytes that are no string refer to nothing.

## Main definitions

* `StringSlot.object?` is the object that a slot refers to.

## Main statements

* `Heap.slotRef?_pointer` and `Heap.slotRef?_string` say what the scan finds.
-/

namespace ProgramImage

/-- The heap object that a slot refers to. -/
def StringSlot.object? : StringSlot → Option ObjectRef
  | .heap obj _ => some obj
  | _ => none

variable {store : GlobalStore} {offset : Nat} {content : List UInt8}

/-- Reading gives the bytes of a range that lies inside the buffer. -/
theorem GlobalStore.read_eq_ok_iff {length : Nat} :
    store.read offset length = .ok content ↔
      offset + length ≤ store.size ∧
        content = (List.range length).map fun i => store.bytes.get! (offset + i) := by
  unfold read checkRange
  by_cases hfits : offset + length ≤ store.size
  · rw [if_pos hfits]
    constructor
    · intro h
      exact ⟨hfits, (Except.ok.inj h).symm⟩
    · rintro ⟨-, rfl⟩
      rfl
  · rw [if_neg hfits]
    constructor
    · intro h
      cases h
    · exact fun h => absurd h.1 hfits

namespace Heap

theorem wordAt?_eq_some (h : store.read offset wordSize = .ok content) :
    wordAt? store.bytes offset = some (LittleEndian.decode content) := by
  obtain ⟨hfits, rfl⟩ := GlobalStore.read_eq_ok_iff.mp h
  exact if_pos hfits

/-- A pointer slot refers to the object that its word numbers. -/
theorem slotRef?_pointer (h : store.read offset wordSize = .ok content) :
    slotRef? store.bytes ⟨offset, .pointer⟩ =
      ObjectRef.ofRaw? (LittleEndian.decode content) := by
  unfold slotRef?
  rw [wordAt?_eq_some h]
  rfl

/-- A string slot refers to the object of the slot that is read from its bytes. -/
theorem slotRef?_string (h : store.read offset stringSlotSize = .ok content) :
    slotRef? store.bytes ⟨offset, .string⟩ =
      (StringSlot.decode? content).bind StringSlot.object? := by
  obtain ⟨hfits, hcontent⟩ := GlobalStore.read_eq_ok_iff.mp h
  have hword : store.read offset wordSize = .ok (content.take wordSize) := by
    refine GlobalStore.read_eq_ok_iff.mpr ⟨?_, ?_⟩
    · exact Nat.le_trans (Nat.add_le_add_left (by decide) offset) hfits
    · rw [hcontent, ← List.map_take, List.take_range]
      rfl
  have hlast : store.bytes.get! (offset + maxInlineString) = content.getD maxInlineString 0 := by
    rw [hcontent]
    rfl
  have hinside : offset + maxInlineString < store.bytes.size := hfits
  unfold slotRef?
  rw [wordAt?_eq_some hword]
  change (if offset + maxInlineString < store.bytes.size &&
      store.bytes.get! (offset + maxInlineString) == 0 then _ else none) = _
  rw [hlast, decide_eq_true hinside, Bool.true_and]
  unfold StringSlot.decode?
  dsimp only
  by_cases hzero : content.all (· == 0)
  · -- zeros number no object and stand for the empty string
    rw [if_pos hzero]
    have hnone : ObjectRef.ofRaw? (LittleEndian.decode (content.take wordSize)) = none := by
      rw [StringSlot.all_eq_zero_iff.mp hzero, List.take_replicate,
        LittleEndian.decode_replicate_zero]
      rfl
    rw [hnone]
    split <;> rfl
  rw [if_neg hzero]
  by_cases htag : content.getD maxInlineString 0 = 0
  · rw [htag, if_pos (beq_self_eq_true _), if_neg (not_not_intro rfl), Option.bind_map]
    exact (Option.bind_fun_some _).symm
  · rw [if_neg (by simpa using htag), if_pos htag]
    split
    · rfl
    · unfold StringSlot.ofShort?
      split <;> rfl

end Heap

end ProgramImage
