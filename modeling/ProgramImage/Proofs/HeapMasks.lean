import ProgramImage.Pattern.Language
import ProgramImage.Proofs.LoadRun
import ProgramImage.Proofs.MaskWalk
import ProgramImage.Proofs.Resolution
import ProgramImage.Proofs.StringForms

/-!
# Masks of verified types

When masks are verified, the masks of every loaded type fit the sizes it is declared with.
Types come to the table in three ways, and each keeps this: the reserved ones are known,
declared ones are checked, and the masks of a struct behind a pointer follow from those of
the struct.

A heap mask is compared with the size of the heap form in whole words, while an object has
just the bytes of the size. So a slot of a heap mask starts inside the object, but the last
one may end up to seven bytes behind it, unless the size is one of whole words.

## Main definitions

* `TypeDescriptor.MasksFit` says that the masks of a type fit its sizes.

## Main statements

* `Load.masksFit_of_load` holds of every type of a verified program.
* `Load.heapMask_slots_of_load` places the slots of a heap mask in an object.
-/

namespace ProgramImage

/-- The masks of a type fit its sizes in whole words: the inline mask describes all of the
    inline form, and the heap mask no more than the heap form. -/
structure TypeDescriptor.MasksFit (desc : TypeDescriptor) : Prop where
  inline_exact : desc.size.inlineMask.covered = roundUpToWord desc.size.inlineSize
  heap_within : ∀ mask ∈ desc.size.heapMask, mask.covered ≤ roundUpToWord desc.size.heapSize

instance (desc : TypeDescriptor) : Decidable desc.MasksFit :=
  decidable_of_iff
    (desc.size.inlineMask.covered = roundUpToWord desc.size.inlineSize ∧
      ∀ mask ∈ desc.size.heapMask, mask.covered ≤ roundUpToWord desc.size.heapSize)
    ⟨fun h => ⟨h.1, h.2⟩, fun h => ⟨h.inline_exact, h.heap_within⟩⟩

theorem masksFit_reserved : ∀ desc ∈ reservedDescriptors, desc.MasksFit := by
  decide

/-- A new object is found by its reference, and is as long as the heap form of its type. -/
theorem Heap.exists_allocated {heap grown : Heap} {desc : TypeDescriptor} {payload : List UInt8}
    {obj : ObjectRef} (h : heap.allocate desc payload = .ok (obj, grown)) :
    ∃ object, grown.get? obj = some object ∧ object.data.length = desc.size.heapSize := by
  obtain ⟨rfl, hlength, -, hobjects, -⟩ := Heap.allocate_eq_ok h
  refine ⟨⟨.ofYoung desc.tid,
    payload ++ List.replicate (desc.size.heapSize - payload.length) 0⟩, ?_, ?_⟩
  · rw [get?, hobjects]
    exact Array.getElem?_push_size
  · rw [List.length_append, List.length_replicate]
    omega

namespace Load

variable {registry : NameRegistry} {context : String}

theorem checkCoverage_eq_ok {mask : Mask} {expected : Coverage} :
    checkCoverage true context mask expected = .ok () ↔ expected.admits mask = true := by
  unfold checkCoverage
  cases expected.admits mask <;> simp

/-- Sizes that are resolved with verified masks have masks that fit them. -/
theorem sizeInfo_fits {record : SizeRecord} {size : SizeInfo}
    (h : sizeInfo true context record = .ok size) :
    size.inlineMask.covered = roundUpToWord size.inlineSize ∧
      ∀ mask ∈ size.heapMask, mask.covered ≤ roundUpToWord size.heapSize := by
  unfold sizeInfo at h
  obtain ⟨inlineMask, -, h⟩ := Except.bind_eq_ok.mp h
  obtain ⟨heapMask, -, h⟩ := Except.bind_eq_ok.mp h
  obtain ⟨⟨⟩, hinline, h⟩ := Except.bind_eq_ok.mp h
  have hexact := eq_of_beq (checkCoverage_eq_ok.mp hinline)
  cases heapMask with
  | none =>
    cases h
    exact ⟨hexact, nofun⟩
  | some heapMask =>
    obtain ⟨⟨⟩, hheap, hpure⟩ := Except.bind_eq_ok.mp h
    cases hpure
    refine ⟨hexact, ?_⟩
    rintro mask hmask
    obtain rfl : heapMask = mask := Option.some.inj hmask
    exact of_decide_eq_true (checkCoverage_eq_ok.mp hheap)

theorem typeDescriptor_masksFit {record : TypeRecord} {desc : TypeDescriptor}
    (h : typeDescriptor registry true record = .ok desc) : desc.MasksFit := by
  unfold typeDescriptor at h
  obtain ⟨tid, -, h⟩ := Except.bind_eq_ok.mp h
  obtain ⟨size, hsize, h⟩ := Except.bind_eq_ok.mp h
  obtain ⟨kind, -, hpure⟩ := Except.bind_eq_ok.mp h
  cases hpure
  obtain ⟨hinline, hheap⟩ := sizeInfo_fits hsize
  exact ⟨hinline, hheap⟩

theorem boxedDescriptor_masksFit {wrapped : TypeDescriptor} (h : wrapped.MasksFit)
    (tid : TypeId) (name : String) : (boxedDescriptor tid name wrapped).MasksFit := by
  constructor
  · change (⟨[.pointer]⟩ : Mask).covered = roundUpToWord wordSize
    decide
  intro mask hmask
  obtain ⟨-, hwrapped⟩ := Option.ite_none_right_eq_some.mp hmask
  obtain rfl : wrapped.size.inlineMask = mask := Option.some.inj hwrapped
  exact Nat.le_of_eq h.inline_exact

variable {σ : Type} {patterns : PatternLanguage} {config : LoadConfig} {initializer : Initializer σ}
  {state : σ} {doc : Document} {program : Program}

/-- Every type of a verified program has masks that fit its sizes. -/
theorem masksFit_of_load
    (hload : (load patterns config initializer state doc).outcome = .ok program)
    (hverify : config.verifyMasks = true) : program.types.Every TypeDescriptor.MasksFit := by
  obtain ⟨first, ⟨run⟩, hrest, -⟩ := run_of_load hload
  rw [hrest]
  have hdeclared : run.declared.Every TypeDescriptor.MasksFit := by
    refine (types_eq_ok_iff.mp run.types_ok).invariant ?_
      (TypeTable.every_reserved masksFit_reserved _)
    intro table record desc next htable hdesc hinsert
    rw [hverify] at hdesc
    exact htable.insert (typeDescriptor_masksFit hdesc) hinsert
  -- a struct is in the table before the type that stands for it behind a pointer
  refine (boxedTypes_eq_ok_iff.mp run.boxedTypes_ok).invariant ?_ hdeclared
  intro table record desc next htable hdesc hinsert
  obtain ⟨tid, found, wrapped, layout, -, -, hwrapped, -, rfl⟩ := boxedType_eq_ok_iff.mp hdesc
  exact htable.insert (boxedDescriptor_masksFit (htable found wrapped hwrapped) tid _) hinsert

/-- An object of a verified program has the size of the heap form of its type. Every slot of
    the heap mask starts inside the object. It ends there too, or it ends where the whole
    words end that the object takes; when the object has a whole number of words, it always
    ends inside the object. -/
theorem heapMask_slots_of_load
    (hload : (load patterns config initializer state doc).outcome = .ok program)
    (hverify : config.verifyMasks = true) {tid : TypeId} {desc : TypeDescriptor} {mask : Mask}
    {heap grown : Heap} {payload : List UInt8} {obj : ObjectRef}
    (hdesc : program.types.type? tid = some desc) (hmask : desc.size.heapMask = some mask)
    (hallocate : heap.allocate desc payload = .ok (obj, grown)) :
    ∃ object, grown.get? obj = some object ∧ object.data.length = desc.size.heapSize ∧
      ∀ slot ∈ mask.walk,
        slot.offset < object.data.length ∧
          (slot.stop ≤ object.data.length ∨ slot.stop = roundUpToWord object.data.length) ∧
          (wordSize ∣ object.data.length → slot.stop ≤ object.data.length) := by
  have hfits := (masksFit_of_load hload hverify tid desc hdesc).heap_within mask hmask
  obtain ⟨object, hobject, hlength⟩ := Heap.exists_allocated hallocate
  refine ⟨object, hobject, hlength, ?_⟩
  intro slot hslot
  rw [← hlength] at hfits
  have hstop : slot.stop ≤ roundUpToWord object.data.length :=
    Nat.le_trans (Mask.stop_le_covered hslot) hfits
  have hstart := slot.offset_lt_stop
  have hround := roundUpToWord_lt object.data.length
  refine ⟨by omega, ?_, ?_⟩
  · -- a slot behind the object ends on a word, and the first such word ends the mask
    by_cases hinside : slot.stop ≤ object.data.length
    · exact .inl hinside
    · have hleast := roundUpToWord_le (Nat.le_of_not_le hinside) (Mask.dvd_stop hslot)
      exact .inr (Nat.le_antisymm hstop hleast)
  · intro hwords
    exact Nat.le_trans hstop (roundUpToWord_le (Nat.le_refl _) hwords)

/-- A document with one type, whose objects have four bytes and whose heap mask is one
    pointer. -/
def halfWordObject : Document :=
  { Document.empty with
    typeNames := ["Half"]
    types := [⟨"Half", none, ⟨4, 8, 8, some "2", "2"⟩, .ref [] []⟩] }

/-- The descriptor of that type. -/
def halfWordType : TypeDescriptor :=
  ⟨⟨TypeId.firstDeclared⟩, "Half", .reference 4 (some ⟨[.pointer]⟩), .ref .empty⟩

theorem halfWordType_of_load :
    ∃ program, (load .basic .standard .absent () halfWordObject).outcome = .ok program ∧
      program.types.type? halfWordType.tid = some halfWordType := by
  have htype : (load .basic .standard .absent () halfWordObject).outcome.toOption.any
      (fun program => program.types.type? halfWordType.tid == some halfWordType) = true := by
    decide +kernel
  obtain ⟨program, hload, hfound⟩ := Except.exists_of_any htype
  exact ⟨program, hload, eq_of_beq hfound⟩

theorem heapMask_slots_of_halfWordObject :
    ∃ program obj grown object, (load .basic .standard .absent () halfWordObject).outcome =
      .ok program ∧
      LoadConfig.standard.verifyMasks = true ∧
      program.types.type? halfWordType.tid = some halfWordType ∧
      halfWordType.size.heapMask = some ⟨[.pointer]⟩ ∧
      (Heap.empty 0).allocate halfWordType [] = .ok (obj, grown) ∧
      grown.get? obj = some object ∧
      ∀ slot ∈ (⟨[.pointer]⟩ : Mask).walk,
        slot.offset < object.data.length ∧
          (slot.stop ≤ object.data.length ∨ slot.stop = roundUpToWord object.data.length) := by
  obtain ⟨program, hload, hdesc⟩ := halfWordType_of_load
  obtain ⟨obj, grown, hallocate⟩ :
      ∃ obj grown, (Heap.empty 0).allocate halfWordType [] = .ok (obj, grown) := ⟨_, _, rfl⟩
  obtain ⟨object, hobject, -, hslots⟩ := heapMask_slots_of_load hload rfl hdesc rfl hallocate
  refine ⟨program, obj, grown, object, hload, rfl, hdesc, rfl, hallocate, hobject, ?_⟩
  intro slot hslot
  obtain ⟨hstart, hstop, -⟩ := hslots slot hslot
  exact ⟨hstart, hstop⟩

/-- A verified heap mask may reach behind the object: its only slot takes eight bytes of an
    object that has four. -/
theorem heapMask_reaches_behind_object :
    ∃ program obj grown object slot,
      (load .basic .standard .absent () halfWordObject).outcome = .ok program ∧
        LoadConfig.standard.verifyMasks = true ∧
        (∀ record ∈ halfWordObject.types, record.size.heapSize.toNat ≤ max64 - 7 ∧
          record.size.inlineSize.toNat ≤ max64 - 7 ∧
          record.size.assignSize.toNat ≤ max64 - 7) ∧
        program.types.type? halfWordType.tid = some halfWordType ∧
        halfWordType.size.heapMask = some ⟨[.pointer]⟩ ∧
        (Heap.empty 0).allocate halfWordType [] = .ok (obj, grown) ∧
        grown.get? obj = some object ∧ slot ∈ (⟨[.pointer]⟩ : Mask).walk ∧
        object.data.length < slot.stop := by
  obtain ⟨program, hload, hdesc⟩ := halfWordType_of_load
  exact ⟨program, _, _, _, ⟨0, .pointer⟩, hload, rfl, by decide, hdesc, rfl, rfl, rfl,
    List.mem_cons_self, by decide⟩

end Load

end ProgramImage
