import ProgramImage.Pattern.Language
import ProgramImage.Proofs.HeapMasks

/-!
# Masks of verified programs

When masks are verified, every mask of a loaded program fits what it describes: the masks of
a type its two forms, and the mask of a body the part of its frame that may be traced. The
masks of a struct behind a pointer are not verified, but they are those of the struct, which
are: its heap form is the inline form of the struct, with the same traced slots.

## Main definitions

* `TypeDescriptor.Boxes` says that a type is that of a struct behind a pointer.

## Main statements

* `Load.boxes_of_load` finds the struct of every type of a struct behind a pointer.
* `Load.masks_of_verified_load` says that all masks of a verified program fit.
-/

namespace ProgramImage

/-- A type is that of a struct behind a pointer: its heap form has the size of the inline form
    of the struct and the same traced slots, and no mask when there are none. -/
structure TypeDescriptor.Boxes (desc wrapped : TypeDescriptor) : Prop where
  is_struct : ∃ layout, wrapped.kind = .struct layout
  heapSize_eq : desc.size.heapSize = wrapped.size.inlineSize
  slots_eq : desc.size.heapMask.elim [] Mask.walk = wrapped.size.inlineMask.walk
  mask_absent_iff : desc.size.heapMask = none ↔ wrapped.size.inlineMask.walk = []

namespace Load

theorem boxedDescriptor_boxes {wrapped : TypeDescriptor} {layout : FieldLayout}
    (hkind : wrapped.kind = .struct layout) (tid : TypeId) (name : String) :
    (boxedDescriptor tid name wrapped).Boxes wrapped := by
  have hmask : (boxedDescriptor tid name wrapped).size.heapMask =
      if wrapped.inlineHasPointers then some wrapped.size.inlineMask else none := rfl
  refine ⟨⟨layout, hkind⟩, rfl, ?_, ?_⟩
  · rw [hmask]
    by_cases hpointers : wrapped.inlineHasPointers = true
    · rw [if_pos hpointers]
      rfl
    · have hnone := Mask.walk_eq_nil_iff.mpr (Bool.eq_false_iff.mpr hpointers)
      rw [if_neg hpointers, hnone]
      rfl
  · rw [hmask, Mask.walk_eq_nil_iff, ← TypeDescriptor.inlineHasPointers]
    cases wrapped.inlineHasPointers <;> simp

/-- A verified body has a mask for no more than the part of its frame that may be traced. -/
theorem body_mask_within {context : String} {record : BodyRecord} {content : Body}
    (h : body true context record = .ok content) :
    content.mixedMask.covered ≤ roundUpToWord content.mixedBytes := by
  unfold body at h
  obtain ⟨mask, -, h⟩ := Except.bind_eq_ok.mp h
  obtain ⟨⟨⟩, hcovered, hpure⟩ := Except.bind_eq_ok.mp h
  cases hpure
  exact of_decide_eq_true (checkCoverage_eq_ok.mp hcovered)

variable {σ : Type} {patterns : PatternLanguage} {config : LoadConfig} {initializer : Initializer σ}
  {state : σ} {doc : Document} {program : Program}

/-- The struct of every type of a struct behind a pointer is loaded. -/
theorem boxes_of_load (hload : (load patterns config initializer state doc).outcome = .ok program)
    {tid wrapped : TypeId} {desc : TypeDescriptor} (hdesc : program.types.type? tid = some desc)
    (hkind : desc.kind = .boxedStruct wrapped) :
    ∃ struct, program.types.type? wrapped = some struct ∧ desc.Boxes struct := by
  obtain ⟨first, ⟨run⟩, hrest, -⟩ := run_of_load hload
  rw [hrest] at hdesc ⊢
  have hplaced := types_isPlaced run.types_ok run.boxedTypes_ok
  -- neither a reserved nor a declared type is of this kind
  rcases types_origin run.types_ok run.boxedTypes_ok hdesc with
    hreserved | ⟨record, -, hrecord⟩ | ⟨record, -, hrecord⟩
  · have hkinds : ∀ found ∈ reservedDescriptors, found.kind.layout ≠ .boxedStruct := by
      decide
    have hlayout := hkinds desc (List.mem_of_getElem? hreserved)
    rw [hkind] at hlayout
    exact absurd rfl hlayout
  · obtain ⟨-, hresolved, -⟩ := typeDescriptor_eq_ok hrecord
    exact absurd hkind ((typeKind_refers hresolved).2.2 wrapped)
  · obtain ⟨own, found, struct, layout, -, -, hfound, hstruct, rfl⟩ :=
      boxedType_eq_ok_iff.mp hrecord
    have htid : struct.tid = wrapped := TypeKind.boxedStruct.inj hkind
    have hplace : struct.tid = found := TypeTable.tid_eq hplaced hfound
    refine ⟨struct, ?_, boxedDescriptor_boxes hstruct _ _⟩
    rw [← htid, hplace]
    exact hfound

/-- All masks of a verified program fit: the inline mask of every type describes all of its
    inline form and the heap mask no more than its heap form, the mask of every body describes
    no more than the part of the frame that may be traced, and the type of a struct behind a
    pointer has the traced slots of the struct. -/
theorem masks_of_verified_load
    (hload : (load patterns config initializer state doc).outcome = .ok program)
    (hverify : config.verifyMasks = true) :
    program.types.Every TypeDescriptor.MasksFit ∧
      (∀ id invoke, program.invokes.get? id = some invoke → ∀ content ∈ invoke.body?,
        content.mixedMask.covered ≤ roundUpToWord content.mixedBytes) ∧
      ∀ tid desc wrapped, program.types.type? tid = some desc → desc.kind = .boxedStruct wrapped →
        ∃ struct, program.types.type? wrapped = some struct ∧ desc.Boxes struct := by
  refine ⟨masksFit_of_load hload hverify, ?_, fun tid desc wrapped => boxes_of_load hload⟩
  obtain ⟨first, ⟨run⟩, hrest, -⟩ := run_of_load hload
  rw [hrest]
  intro id invoke hinvoke content hcontent
  rcases (invokes_eq_ok_iff.mp run.invokes_ok).origin hinvoke with
    hempty | ⟨record, -, mid, hrecord, -⟩
  · simp at hempty
  · rw [hverify] at hrecord
    obtain ⟨-, -, -, hbody⟩ := invoke_refers hrecord
    obtain ⟨source, hsource⟩ := hbody content hcontent
    exact body_mask_within hsource

/-- A document with a struct that has a string in it, a struct without references that ends
    within a word, the types of both behind a pointer, and a body. -/
def boxedStructs : Document :=
  { Document.empty with
    typeNames := ["Entry", "Flat", "Entry$Boxed", "Flat$Boxed"]
    types :=
      [⟨"Entry", none, ⟨0, 24, 24, none, "13"⟩, .struct [] []⟩,
       ⟨"Flat", none, ⟨0, 12, 12, none, "11"⟩, .struct [] []⟩]
    boxedTypes := [⟨"Flat$Boxed", "Flat", "Flat"⟩, ⟨"Entry$Boxed", "Entry", "Entry"⟩]
    invokeNames := ["run"]
    invokes :=
      [⟨"run", "run", "", .unknown, .unknown, false, [], "Nat",
        .body ⟨true, 0, 20, "32", 2, 0, [], .null, []⟩⟩] }

theorem masks_of_boxedStructs :
    ∃ program boxed struct run content,
      (load .basic .standard .absent () boxedStructs).outcome = .ok program ∧
      LoadConfig.standard.verifyMasks = true ∧
      program.types.type? ⟨28⟩ = some boxed ∧ boxed.kind = .boxedStruct ⟨26⟩ ∧
      program.types.type? ⟨26⟩ = some struct ∧ boxed.Boxes struct ∧ boxed.MasksFit ∧
      program.invokes.get? 0 = some run ∧ run.body? = some content ∧
      content.mixedMask.covered ≤ roundUpToWord content.mixedBytes := by
  have hok : (load .basic .standard .absent () boxedStructs).outcome.toOption.any (fun program =>
      (program.types.type? ⟨28⟩).map TypeDescriptor.kind == some (.boxedStruct ⟨26⟩) &&
        ((program.invokes.get? 0).bind Invoke.body?).isSome) = true := by
    decide +kernel
  obtain ⟨program, hload, htest⟩ := Except.exists_of_any hok
  obtain ⟨hkind, hbody⟩ := Bool.and_eq_true_iff.mp htest
  obtain ⟨boxed, hboxed, hboxedKind⟩ := Option.map_eq_some_iff.mp (eq_of_beq hkind)
  obtain ⟨content, hcontent⟩ := Option.isSome_iff_exists.mp hbody
  obtain ⟨run, hrun, hrunBody⟩ := Option.bind_eq_some_iff.mp hcontent
  obtain ⟨hfit, hframes, hboxes⟩ := masks_of_verified_load hload rfl
  obtain ⟨struct, hstruct, hslots⟩ := hboxes _ _ _ hboxed hboxedKind
  exact ⟨program, boxed, struct, run, content, hload, rfl, hboxed, hboxedKind, hstruct, hslots,
    hfit _ _ hboxed, hrun, hrunBody, hframes _ _ hrun _ hrunBody⟩

end Load

end ProgramImage
