import ProgramImage.Mask

/-!
# Slots of a mask

The slots that a walk over a mask reports lie in the bytes that the mask describes, one
after the other and without overlap, and each takes whole words. So a byte belongs to one
slot at most.

## Main definitions

* `MaskSlot.stop` is the end of a slot.
* `Mask.stringOffsets` lists where the string slots of a mask start.

## Main statements

* `Mask.stop_le_covered` bounds the slots of a walk.
* `Mask.apart_of_mem_walk` keeps them apart.
-/

namespace ProgramImage

/-- Less than a word is added to some bytes. -/
theorem roundUpToWord_lt (bytes : Nat) : roundUpToWord bytes < bytes + wordSize := by
  unfold roundUpToWord wordsFor wordSize
  omega

/-- Whole words with room for some bytes are no fewer than the bytes need. -/
theorem roundUpToWord_le {bytes words : Nat} (h : bytes ≤ words) (hwords : wordSize ∣ words) :
    roundUpToWord bytes ≤ words := by
  unfold roundUpToWord wordsFor wordSize at *
  omega

theorem MaskSymbol.wordSize_le_width (symbol : MaskSymbol) : wordSize ≤ symbol.width := by
  cases symbol <;> decide

theorem MaskSymbol.wordSize_dvd_width (symbol : MaskSymbol) : wordSize ∣ symbol.width := by
  cases symbol <;> decide

namespace MaskSlot

/-- The end of a slot: the offset of the first byte behind it. -/
def stop (slot : MaskSlot) : Nat :=
  slot.offset + slot.kind.width

theorem offset_lt_stop (slot : MaskSlot) : slot.offset + wordSize ≤ slot.stop :=
  Nat.add_le_add_left slot.kind.wordSize_le_width _

end MaskSlot

namespace Mask

/-- The slots of some symbols lie in the bytes that the symbols describe. -/
theorem mem_walkFrom {offset : Nat} {symbols : List MaskSymbol} {slot : MaskSlot}
    (h : slot ∈ walkFrom offset symbols) :
    offset ≤ slot.offset ∧ slot.stop ≤ offset + widthOf symbols := by
  induction symbols generalizing offset with
  | nil => cases h
  | cons symbol rest ih =>
    unfold walkFrom at h
    unfold widthOf
    have hlater : slot ∈ walkFrom (offset + symbol.width) rest →
        offset ≤ slot.offset ∧ slot.stop ≤ offset + (symbol.width + widthOf rest) := by
      intro hmem
      obtain ⟨hlow, hhigh⟩ := ih hmem
      exact ⟨by omega, by omega⟩
    by_cases htraced : symbol.isTraced
    · rw [if_pos htraced] at h
      rcases List.mem_cons.mp h with rfl | hmem
      · exact ⟨Nat.le_refl _, Nat.add_le_add_left (Nat.le_add_right _ _) _⟩
      · exact hlater hmem
    · rw [if_neg htraced] at h
      exact hlater h

/-- Slots end on a word when the first one starts on one. -/
theorem dvd_stop_of_mem_walkFrom {offset : Nat} {symbols : List MaskSymbol} {slot : MaskSlot}
    (hoffset : wordSize ∣ offset) (h : slot ∈ walkFrom offset symbols) :
    wordSize ∣ slot.stop := by
  induction symbols generalizing offset with
  | nil => cases h
  | cons symbol rest ih =>
    have hnext := (Nat.dvd_add_iff_right hoffset).mp symbol.wordSize_dvd_width
    unfold walkFrom at h
    by_cases htraced : symbol.isTraced
    · rw [if_pos htraced] at h
      rcases List.mem_cons.mp h with rfl | hmem
      · exact hnext
      · exact ih hnext hmem
    · rw [if_neg htraced] at h
      exact ih hnext h

/-- Every slot of some symbols ends before the next one starts. -/
theorem pairwise_walkFrom (offset : Nat) (symbols : List MaskSymbol) :
    (walkFrom offset symbols).Pairwise fun first second => first.stop ≤ second.offset := by
  induction symbols generalizing offset with
  | nil => exact .nil
  | cons symbol rest ih =>
    unfold walkFrom
    by_cases htraced : symbol.isTraced
    · rw [if_pos htraced]
      exact .cons (fun slot hslot => (mem_walkFrom hslot).1) (ih _)
    · rw [if_neg htraced]
      exact ih _

variable {mask : Mask} {slot : MaskSlot}

theorem stop_le_covered (h : slot ∈ mask.walk) : slot.stop ≤ mask.covered := by
  obtain ⟨-, hstop⟩ := mem_walkFrom h
  rwa [Nat.zero_add] at hstop

theorem dvd_stop (h : slot ∈ mask.walk) : wordSize ∣ slot.stop :=
  dvd_stop_of_mem_walkFrom (Nat.dvd_zero wordSize) h

theorem pairwise_walk (mask : Mask) :
    mask.walk.Pairwise fun first second => first.stop ≤ second.offset :=
  pairwise_walkFrom 0 mask.symbols

theorem walkFrom_eq_nil_iff {offset : Nat} {symbols : List MaskSymbol} :
    walkFrom offset symbols = [] ↔ symbols.any MaskSymbol.isTraced = false := by
  induction symbols generalizing offset with
  | nil => simp [walkFrom]
  | cons symbol rest ih =>
    unfold walkFrom
    cases htraced : symbol.isTraced with
    | true => simp [htraced]
    | false => simp [htraced, ih]

/-- A mask without traced slots has nothing to walk over. -/
theorem walk_eq_nil_iff {mask : Mask} : mask.walk = [] ↔ mask.hasPointers = false :=
  walkFrom_eq_nil_iff

/-- Two slots of a mask are the same, or one ends before the other starts. -/
theorem apart_of_mem_walk {first second : MaskSlot} (hfirst : first ∈ mask.walk)
    (hsecond : second ∈ mask.walk) :
    first = second ∨ first.stop ≤ second.offset ∨ second.stop ≤ first.offset := by
  -- of two slots in a list, one is the head and the other behind it, or both are behind it
  have hpairwise := pairwise_walk mask
  generalize mask.walk = slots at *
  induction hpairwise with
  | nil => cases hfirst
  | cons hhead _ ih =>
    rcases List.mem_cons.mp hfirst with rfl | hfirstLater
    · rcases List.mem_cons.mp hsecond with rfl | hsecondLater
      · exact .inl rfl
      · exact .inr (.inl (hhead second hsecondLater))
    · rcases List.mem_cons.mp hsecond with rfl | hsecondLater
      · exact .inr (.inr (hhead first hfirstLater))
      · exact ih hfirstLater hsecondLater

/-- The offsets of the string slots of a mask, in order. -/
def stringOffsets (mask : Mask) : List Nat :=
  (mask.walk.filter fun slot => slot.kind == .string).map MaskSlot.offset

theorem mem_stringOffsets {offset : Nat} :
    offset ∈ mask.stringOffsets ↔ ⟨offset, .string⟩ ∈ mask.walk := by
  unfold stringOffsets
  rw [List.mem_map]
  constructor
  · rintro ⟨⟨start, kind⟩, hmem, rfl⟩
    obtain ⟨hwalk, hkind⟩ := List.mem_filter.mp hmem
    obtain rfl : kind = .string := eq_of_beq hkind
    exact hwalk
  · intro hwalk
    exact ⟨_, List.mem_filter.mpr ⟨hwalk, rfl⟩, rfl⟩

/-- The string slots of a mask start at different offsets. -/
theorem nodup_stringOffsets (mask : Mask) : mask.stringOffsets.Nodup := by
  unfold stringOffsets List.Nodup
  rw [List.pairwise_map]
  refine ((pairwise_walk mask).filter _).imp ?_
  intro first second hstop
  have hlt := first.offset_lt_stop
  unfold wordSize at hlt
  omega

end Mask

end ProgramImage
