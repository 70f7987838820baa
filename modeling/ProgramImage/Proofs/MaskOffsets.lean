import Mathlib.Algebra.BigOperators.Group.List.Basic
import Mathlib.Algebra.GroupWithZero.Nat
import Mathlib.Data.List.Induction
import ProgramImage.Proofs.MaskWalk

/-!
# Offsets of mask slots

A walk over a mask goes on by the width of every symbol, also of those that it passes over. So a
traced symbol is reported at the sum of the widths in front of it, and a mask that stands behind
another one is walked as if it stood alone, by the bytes of the first one further on.

## Main definitions

* `Mask.offsetAt` is the place of a symbol, and `Mask.slotAt?` its slot if it is traced.
* `first ++ second` is the mask with the symbols of both.

## Main statements

* `Mask.walkFrom_append` walks over two parts one after the other.
* `Mask.walk_eq_filterMap` gives every slot by the place of its symbol.
* `Mask.walk_by_offsets` puts together what a walk reports.
-/

namespace ProgramImage

/-- The same slot in a region that starts some bytes earlier. -/
def MaskSlot.shift (bytes : Nat) (slot : MaskSlot) : MaskSlot :=
  { slot with offset := bytes + slot.offset }

namespace Mask

instance : Append Mask where
  append first second := ⟨first.symbols ++ second.symbols⟩

@[simp] theorem symbols_append (first second : Mask) :
    (first ++ second).symbols = first.symbols ++ second.symbols :=
  rfl

/-- The place of the `i`-th symbol: the widths of all symbols in front of it. -/
def offsetAt (mask : Mask) (i : Nat) : Nat :=
  ((mask.symbols.take i).map MaskSymbol.width).sum

/-- The slot of the `i`-th symbol, if there is such a symbol and it is traced. -/
def slotAt? (mask : Mask) (i : Nat) : Option MaskSlot :=
  (mask.symbols[i]?.filter (· ≠ .skip)).map fun symbol => ⟨mask.offsetAt i, symbol⟩

/-! ### Widths -/

theorem widthOf_eq_sum (symbols : List MaskSymbol) :
    widthOf symbols = (symbols.map MaskSymbol.width).sum := by
  induction symbols with
  | nil => rfl
  | cons symbol rest ih => simp [widthOf, ih]

@[simp] theorem widthOf_append (first second : List MaskSymbol) :
    widthOf (first ++ second) = widthOf first + widthOf second := by
  simp [widthOf_eq_sum]

@[simp] theorem covered_append (first second : Mask) :
    (first ++ second).covered = first.covered + second.covered :=
  widthOf_append first.symbols second.symbols

/-- The symbols behind a place do not move what stands in front of them. -/
theorem offsetAt_append {first second : Mask} {i : Nat} (hi : i ≤ first.symbols.length) :
    (first ++ second).offsetAt i = first.offsetAt i := by
  simp [offsetAt, List.take_append_of_le_length hi]

theorem slotAt?_append {first second : Mask} {i : Nat} (hi : i < first.symbols.length) :
    (first ++ second).slotAt? i = first.slotAt? i := by
  simp [slotAt?, offsetAt_append (Nat.le_of_lt hi), List.getElem?_append_left hi]

/-! ### Walks -/

/-- The first part is walked over as if nothing followed, and the second from its end on. -/
theorem walkFrom_append (offset : Nat) (first second : List MaskSymbol) :
    walkFrom offset (first ++ second) =
      walkFrom offset first ++ walkFrom (offset + widthOf first) second := by
  induction first generalizing offset with
  | nil => rfl
  | cons symbol rest ih =>
    simp only [List.cons_append, walkFrom, widthOf, ih, Nat.add_assoc]
    split <;> rfl

/-- A walk that starts later reports the same slots later. -/
theorem walkFrom_shift (bytes offset : Nat) (symbols : List MaskSymbol) :
    walkFrom (bytes + offset) symbols = (walkFrom offset symbols).map (MaskSlot.shift bytes) := by
  induction symbols generalizing offset with
  | nil => rfl
  | cons symbol rest ih =>
    simp only [walkFrom, Nat.add_assoc, ih]
    split <;> rfl

theorem walk_append (first second : Mask) :
    (first ++ second).walk = first.walk ++ second.walk.map (MaskSlot.shift first.covered) := by
  have hsecond : walkFrom first.covered second.symbols =
      second.walk.map (MaskSlot.shift first.covered) :=
    walkFrom_shift first.covered 0 second.symbols
  show walkFrom 0 (first.symbols ++ second.symbols) = _
  rw [walkFrom_append, Nat.zero_add, ← covered, hsecond]
  rfl

/-- A walk reports the slots of the traced symbols, each at the place of its symbol. -/
theorem walk_eq_filterMap (mask : Mask) :
    mask.walk = (List.range mask.symbols.length).filterMap mask.slotAt? := by
  obtain ⟨symbols⟩ := mask
  -- from the end, since the place of a symbol depends on those in front of it
  induction symbols using List.reverseRecOn with
  | nil => rfl
  | append_singleton symbols symbol ih =>
    show (Mask.mk symbols ++ Mask.mk [symbol]).walk =
      (List.range (symbols ++ [symbol]).length).filterMap
        (Mask.mk symbols ++ Mask.mk [symbol]).slotAt?
    have hfront : (List.range symbols.length).filterMap
        (Mask.mk symbols ++ Mask.mk [symbol]).slotAt? =
        (List.range symbols.length).filterMap (Mask.mk symbols).slotAt? :=
      List.filterMap_congr fun i hi => slotAt?_append (List.mem_range.mp hi)
    have hlast : (Mask.mk symbols ++ Mask.mk [symbol]).slotAt? symbols.length =
        (Option.some symbol |>.filter (· ≠ .skip)).map fun symbol =>
          ⟨(Mask.mk symbols).covered, symbol⟩ := by
      simp [slotAt?, offsetAt, covered, widthOf_eq_sum]
    rw [walk_append, List.length_append, List.length_singleton, List.range_succ,
      List.filterMap_append, hfront, ← ih]
    cases symbol <;> simp [hlast, walk, walkFrom, MaskSlot.shift, MaskSymbol.isTraced]

theorem map_kind_walkFrom (offset : Nat) (symbols : List MaskSymbol) :
    (walkFrom offset symbols).map MaskSlot.kind = symbols.filter (· ≠ .skip) := by
  induction symbols generalizing offset with
  | nil => rfl
  | cons symbol rest ih =>
    cases symbol <;> simp [walkFrom, MaskSymbol.isTraced, ih]

/-- The slots of a walk come one after the other, each behind the end of the one before. -/
theorem increasing_walk (mask : Mask) :
    mask.walk.Pairwise fun first second =>
      first.offset < second.offset ∧ first.stop ≤ second.offset := by
  refine (pairwise_walk mask).imp ?_
  intro first second hstop
  have hwidth : 0 < first.kind.width := Nat.lt_of_lt_of_le (by decide) first.kind.wordSize_le_width
  exact ⟨by unfold MaskSlot.stop at hstop; omega, hstop⟩

theorem hasPointers_iff {mask : Mask} : mask.hasPointers = true ↔ mask.walk ≠ [] := by
  rw [Ne, walk_eq_nil_iff, Bool.not_eq_false]

/-- A walk reports all symbols but those that skip a word, in order and each at the sum of the
    widths in front of it. So its slots do not overlap and lie in the bytes that the mask covers,
    and there are none exactly when the mask has no pointers. Behind another mask the same slots
    are reported, further on by the bytes that the other one covers. -/
theorem walk_by_offsets (mask : Mask) :
    mask.walk = (List.range mask.symbols.length).filterMap mask.slotAt? ∧
      mask.walk.map MaskSlot.kind = mask.symbols.filter (· ≠ .skip) ∧
      mask.walk.Pairwise (fun first second =>
        first.offset < second.offset ∧ first.stop ≤ second.offset) ∧
      mask.covered = (mask.symbols.map MaskSymbol.width).sum ∧
      (∀ slot ∈ mask.walk, slot.stop ≤ mask.covered) ∧
      (mask.hasPointers = true ↔ mask.walk ≠ []) ∧
      ∀ other : Mask,
        (mask ++ other).walk = mask.walk ++ other.walk.map (MaskSlot.shift mask.covered) ∧
          (mask ++ other).covered = mask.covered + other.covered :=
  ⟨walk_eq_filterMap mask, map_kind_walkFrom 0 mask.symbols, increasing_walk mask,
    widthOf_eq_sum mask.symbols, fun _ => stop_le_covered, hasPointers_iff,
    fun other => ⟨walk_append mask other, covered_append mask other⟩⟩

/-- The skipped word in the middle is not reported, but it takes its place. -/
theorem walk_by_offsets_of_skippedWord :
    (Mask.mk [.string, .skip, .pointer]).walk = [⟨0, .string⟩, ⟨24, .pointer⟩] ∧
      MaskSlot.mk 24 .pointer ∈ (Mask.mk [.string, .skip, .pointer]).walk ∧
      (MaskSlot.mk 24 .pointer).stop ≤ (Mask.mk [.string, .skip, .pointer]).covered := by
  obtain ⟨hwalk, -, -, -, hstop, -⟩ := walk_by_offsets ⟨[.string, .skip, .pointer]⟩
  have hslots : (Mask.mk [.string, .skip, .pointer]).walk = [⟨0, .string⟩, ⟨24, .pointer⟩] :=
    hwalk.trans rfl
  have hmem : MaskSlot.mk 24 .pointer ∈ (Mask.mk [.string, .skip, .pointer]).walk := by
    simp [hslots]
  exact ⟨hslots, hmem, hstop _ hmem⟩

end Mask

end ProgramImage
