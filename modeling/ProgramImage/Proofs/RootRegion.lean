import Mathlib.Logic.Relation
import ProgramImage.Pattern.Language
import ProgramImage.Proofs.LoadedRoots

/-!
# The region of roots

The region that is scanned for roots is registered once, when the global buffer is made,
with the size and the mask of the buffer. Registering refuses a mask that describes more
than the buffer holds, whether or not masks are verified, and nothing that happens to a
memory later changes the region, the size of the buffer or its mask. So every slot of the
mask lies inside every buffer of that size, and a scan finds each slot whole.

## Main definitions

* `Memory.HasRegion` says that the region of roots is the global buffer.
* `Memory.Step` is one operation on a memory, and `Initializer.UsesOperations` says that
  computing a constant takes such steps only.
* `MaskSlot.target?` is the object that the bytes of a slot refer to, as their decoder
  tells it.

## Main statements

* `Memory.HasRegion.step` and `Memory.HasRegion.run` keep the region.
* `Memory.HasRegion.globalRoots_eq` says what a scan finds in any buffer of the size of the
  region.
* `Load.root_scan_of_load` is the region and the scan of a loaded program.
-/

namespace ProgramImage

/-! ### Operations on a memory -/

/-- One operation on a memory: a write to the global buffer, or a request to the heap. -/
inductive Memory.Step : Memory → Memory → Prop
  | write (memory : Memory) (offset : Nat) (content : List UInt8) :
      Step memory (memory.write offset content).2
  | allocate {memory : Memory} {desc : TypeDescriptor} {payload : List UInt8} {obj : ObjectRef}
      {heap : Heap} (h : memory.heap.allocate desc payload = .ok (obj, heap)) :
      Step memory { memory with heap }
  | setHeader (memory : Memory) (obj : ObjectRef) (header : HeaderWord) :
      Step memory { memory with heap := memory.heap.setHeader obj header }
  | setLimit (memory : Memory) (limit : Nat) :
      Step memory { memory with heap := memory.heap.setLimit limit }
  | registerRoots {memory : Memory} {size : Nat} {mask : Mask} {heap : Heap}
      (h : memory.heap.registerRoots size mask = .ok heap) : Step memory { memory with heap }

/-- Computing a constant changes the memory by operations on it only. -/
def Initializer.UsesOperations {σ : Type} (initializer : Initializer σ) : Prop :=
  ∀ request state memory,
    Relation.ReflTransGen Memory.Step memory (initializer.run request state memory).2.2

theorem Initializer.KeepsMemory.usesOperations {σ : Type} {initializer : Initializer σ}
    (h : initializer.KeepsMemory) : initializer.UsesOperations := by
  intro request state memory
  rw [h request state memory]

/-- The region of roots is the global buffer, and its mask fits the buffer. -/
structure Memory.HasRegion (memory : Memory) (size : Nat) (mask : Mask) : Prop where
  size_eq : memory.globals.size = size
  mask_eq : memory.globals.mask = mask
  region : memory.heap.roots.global = some ⟨size, mask⟩
  covered_le : mask.covered ≤ size

namespace Memory

variable {memory later : Memory} {size : Nat} {mask : Mask}

theorem IsFresh.hasRegion (h : memory.IsFresh size mask) : memory.HasRegion size mask where
  size_eq := by rw [h.globals, GlobalStore.size_zeros]
  mask_eq := by rw [h.globals]; rfl
  region := h.roots
  covered_le := h.covered_le

/-- A memory with the same region, and a buffer of the same size and mask. -/
theorem HasRegion.of_eq (h : memory.HasRegion size mask)
    (hsize : later.globals.size = memory.globals.size)
    (hmask : later.globals.mask = memory.globals.mask)
    (hroots : later.heap.roots = memory.heap.roots) : later.HasRegion size mask where
  size_eq := hsize.trans h.size_eq
  mask_eq := hmask.trans h.mask_eq
  region := by rw [hroots, h.region]
  covered_le := h.covered_le

theorem HasRegion.write (h : memory.HasRegion size mask) (offset : Nat) (content : List UInt8) :
    (memory.write offset content).2.HasRegion size mask := by
  by_cases hfits : offset + content.length ≤ memory.globals.size
  · rw [write_of_le hfits]
    exact h.of_eq (GlobalStore.size_overwrite _ _ _) (GlobalStore.mask_overwrite _ _ _) rfl
  · rw [write_of_lt (Nat.lt_of_not_le hfits)]
    exact h

/-- A region that is registered is the only one. -/
theorem HasRegion.registerRoots_ne_ok (h : memory.HasRegion size mask) {otherSize : Nat}
    {other : Mask} {heap : Heap} : memory.heap.registerRoots otherSize other ≠ .ok heap := by
  unfold Heap.registerRoots RootSet.register
  rw [h.region]
  simp

/-- Every operation keeps the region. -/
theorem HasRegion.step (h : memory.HasRegion size mask) (hstep : Step memory later) :
    later.HasRegion size mask := by
  cases hstep with
  | write offset content => exact h.write offset content
  | allocate hallocate =>
    obtain ⟨-, -, -, -, hroots⟩ := Heap.allocate_eq_ok hallocate
    exact h.of_eq rfl rfl hroots
  | setHeader obj header => exact h.of_eq rfl rfl rfl
  | setLimit limit => exact h.of_eq rfl rfl rfl
  | registerRoots hregister => exact absurd hregister h.registerRoots_ne_ok

theorem HasRegion.run (h : memory.HasRegion size mask)
    (hrun : Relation.ReflTransGen Step memory later) : later.HasRegion size mask := by
  induction hrun with
  | refl => exact h
  | tail _ hstep ih => exact ih.step hstep

end Memory

/-! ### What a slot refers to -/

namespace MaskSlot

/-- The bytes of a slot. -/
def bytes (slot : MaskSlot) (content : List UInt8) : List UInt8 :=
  (content.drop slot.offset).take slot.kind.width

/-- The object that the bytes of a slot refer to, among the first `count` objects. The word
    of a pointer slot is the number of an object, starting at one; a string slot refers to
    the object of its heap form. -/
def target? (count : Nat) (content : List UInt8) (slot : MaskSlot) : Option ObjectRef :=
  match slot.kind with
  | .pointer =>
    let word := LittleEndian.decode (slot.bytes content)
    if 1 ≤ word ∧ word ≤ count then some ⟨word - 1⟩ else none
  | .string =>
    match StringSlot.decode? (slot.bytes content) with
    | some (.heap obj _) => if 1 ≤ obj.raw ∧ obj.raw ≤ count then some obj else none
    | _ => none
  | _ => none

/-- Reading a slot that lies inside a buffer gives its bytes. -/
theorem read_eq_bytes {store : GlobalStore} {slot : MaskSlot} (h : slot.stop ≤ store.size) :
    store.read slot.offset slot.kind.width = .ok (slot.bytes store.toList) :=
  GlobalStore.read_of_le h

end MaskSlot

/-- A word is the number of one of the first objects when it is neither zero nor too large. -/
theorem ObjectRef.filter_ofRaw? (count word : Nat) :
    (ofRaw? word).filter (fun obj => obj.place < count) =
      if 1 ≤ word ∧ word ≤ count then some ⟨word - 1⟩ else none := by
  cases word with
  | zero => rfl
  | succ place =>
    simp only [ofRaw?, Option.filter_some, decide_eq_true_eq, Nat.add_sub_cancel]
    by_cases hplace : place < count
    · rw [if_pos hplace, if_pos ⟨by omega, by omega⟩]
    · rw [if_neg hplace, if_neg (by omega)]

/-- The scan and the decoder agree about every slot that lies inside the buffer, whatever its
    bytes are. -/
theorem Heap.filter_slotRef? {store : GlobalStore} {slot : MaskSlot} (h : slot.stop ≤ store.size)
    (count : Nat) :
    (slotRef? store.bytes slot).filter (fun obj => obj.place < count) =
      slot.target? count store.toList := by
  have hread := MaskSlot.read_eq_bytes h
  obtain ⟨offset, kind⟩ := slot
  cases kind with
  | pointer =>
    rw [slotRef?_pointer hread, ObjectRef.filter_ofRaw?]
    rfl
  | string =>
    rw [slotRef?_string hread]
    simp only [MaskSlot.target?]
    cases StringSlot.decode? (MaskSlot.bytes ⟨offset, .string⟩ store.toList) with
    | none => rfl
    | some found =>
      cases found with
      | empty => rfl
      | inline content => rfl
      | heap obj length =>
        have hobj : ObjectRef.ofRaw? obj.raw = some obj := rfl
        have hfilter := ObjectRef.filter_ofRaw? count obj.raw
        rw [hobj] at hfilter
        exact hfilter
  | skip | bigNum | union =>
    unfold slotRef?
    cases wordAt? store.bytes offset <;> rfl

/-! ### Scans of the region -/

namespace Memory.HasRegion

variable {memory : Memory} {size : Nat} {mask : Mask}

theorem stop_le (h : memory.HasRegion size mask) {slot : MaskSlot} (hslot : slot ∈ mask.walk) :
    slot.stop ≤ size :=
  Nat.le_trans (Mask.stop_le_covered hslot) h.covered_le

/-- A scan of a buffer of the size of the region does not run past its end: the first word of
    each slot can be read, and so can the last byte of each string slot. -/
theorem scan_inside (h : memory.HasRegion size mask) {buffer : ByteArray}
    (hbuffer : buffer.size = size) {slot : MaskSlot} (hslot : slot ∈ mask.walk) :
    (Heap.wordAt? buffer slot.offset).isSome ∧
      (slot.kind = .string → slot.offset + 2 * wordSize - 1 < buffer.size) := by
  have hstop := h.stop_le hslot
  have hstart := slot.offset_lt_stop
  constructor
  · unfold Heap.wordAt?
    rw [if_pos (by omega)]
    rfl
  · intro hkind
    have hend : slot.stop = slot.offset + 2 * wordSize := by
      rw [MaskSlot.stop, hkind]
      rfl
    unfold wordSize at *
    omega

/-- A scan of a buffer of the size of the region finds, slot by slot, the objects that the
    bytes of the slots refer to. -/
theorem globalRoots_eq (h : memory.HasRegion size mask) {buffer : ByteArray}
    (hbuffer : buffer.size = size) :
    memory.heap.globalRoots buffer =
      mask.walk.filterMap (MaskSlot.target? memory.heap.count buffer.data.toList) := by
  unfold Heap.globalRoots
  rw [h.region]
  dsimp only
  rw [List.filter_filterMap]
  apply List.filterMap_congr
  intro slot hslot
  have hstop : slot.stop ≤ (GlobalStore.mk buffer mask).size := by
    rw [GlobalStore.size, hbuffer]
    exact h.stop_le hslot
  exact Heap.filter_slotRef? hstop memory.heap.count

end Memory.HasRegion

/-! ### The region of a loaded program -/

namespace Load

variable {σ : Type} {patterns : PatternLanguage} {config : LoadConfig} {initializer : Initializer σ}
  {state : σ} {doc : Document} {program : Program}

/-- The region of roots of a loaded program is its global buffer. -/
theorem hasRegion_of_load
    (hload : (load patterns config initializer state doc).outcome = .ok program)
    (hoperations : initializer.UsesOperations) :
    ∃ mask, Mask.parse doc.globalMask = .ok mask ∧
      doc.globalSize.toNat ≤ config.maxGlobalBytes ∧
      program.memory.HasRegion doc.globalSize.toNat mask := by
  obtain ⟨first, ⟨run⟩, -, hconstants⟩ := run_of_load hload
  obtain ⟨mask, hmask, hmax, hfresh, hliterals⟩ := literalRun_of_run run
  have hfirst : first.memory.HasRegion doc.globalSize.toNat mask :=
    hfresh.hasRegion.of_eq hliterals.size_eq hliterals.mask_eq hliterals.roots_eq
  have hrun : ∀ request state memory, memory.HasRegion doc.globalSize.toNat mask →
      (initializer.run request state memory).2.2.HasRegion doc.globalSize.toNat mask :=
    fun request state memory hmemory => hmemory.run (hoperations request state memory)
  exact ⟨mask, hmask, hmax, constants_keep_memory hrun hfirst hconstants⟩

/-- The region of roots of a loaded program has the size and the mask of the global buffer,
    which is no larger than the settings allow, and every slot of the mask lies inside it. So
    a scan of any buffer of that size reads every slot whole, and finds in the order of the
    slots the objects that their bytes refer to. -/
theorem root_scan_of_load
    (hload : (load patterns config initializer state doc).outcome = .ok program)
    (hoperations : initializer.UsesOperations) :
    ∃ mask, Mask.parse doc.globalMask = .ok mask ∧
      program.memory.globals.mask = mask ∧
      program.memory.globals.size = doc.globalSize.toNat ∧
      doc.globalSize.toNat ≤ config.maxGlobalBytes ∧
      program.memory.heap.roots.global = some ⟨doc.globalSize.toNat, mask⟩ ∧
      (∀ slot ∈ mask.walk, slot.stop ≤ doc.globalSize.toNat) ∧
      ∀ buffer : ByteArray, buffer.size = doc.globalSize.toNat →
        (∀ slot ∈ mask.walk, (Heap.wordAt? buffer slot.offset).isSome ∧
          (slot.kind = .string → slot.offset + 2 * wordSize - 1 < buffer.size)) ∧
        program.memory.heap.globalRoots buffer =
          mask.walk.filterMap
            (MaskSlot.target? program.memory.heap.count buffer.data.toList) := by
  obtain ⟨mask, hmask, hmax, hregion⟩ := hasRegion_of_load hload hoperations
  refine ⟨mask, hmask, hregion.mask_eq, hregion.size_eq, hmax, hregion.region,
    fun slot hslot => hregion.stop_le hslot, ?_⟩
  intro buffer hbuffer
  exact ⟨fun slot hslot => hregion.scan_inside hbuffer hslot, hregion.globalRoots_eq hbuffer⟩

/-- Bytes for the slots of `mixedLiterals`: the second object, a short string whose first
    word is one, the number of no object, and the first object in the pointer slot. -/
def staleBuffer : ByteArray :=
  ⟨(StringSlot.encode (.heap ⟨1⟩ 20) ++ StringSlot.encode (.inline [1, 0, 0, 0, 0, 0, 0, 0, 9]) ++
    StringSlot.encode (.heap ⟨2⟩ 20) ++ LittleEndian.encode 8 1 ++
    List.replicate 16 0).toArray⟩

theorem root_scan_of_mixedLiterals :
    ∃ program,
      (load .basic { LoadConfig.standard with verifyMasks := false } .absent ()
        mixedLiterals).outcome =
        .ok program ∧
      Initializer.absent.UsesOperations ∧ staleBuffer.size = 72 ∧
      program.memory.heap.roots.global =
        some ⟨72, ⟨[.string, .string, .string, .pointer, .skip, .skip]⟩⟩ ∧
      program.memory.heap.globalRoots staleBuffer = [⟨1⟩, ⟨0⟩] := by
  have hok : (load .basic { LoadConfig.standard with verifyMasks := false } .absent ()
      mixedLiterals).outcome.isOk = true := by
    decide +kernel
  obtain ⟨program, hload⟩ := Except.exists_of_isOk hok
  have hoperations := Initializer.keepsMemory_absent.usesOperations
  obtain ⟨mask, hmask, -, -, -, hregion, -, hscan⟩ := root_scan_of_load hload hoperations
  have hparse : Mask.parse mixedLiterals.globalMask =
      .ok ⟨[.string, .string, .string, .pointer, .skip, .skip]⟩ := by decide
  obtain rfl := Except.ok.inj (hmask.symm.trans hparse)
  have hcount : program.memory.heap.count = 2 := by
    rw [heap_count_of_load hload (.inl rfl)]
    decide
  have hroots := (hscan staleBuffer (by decide)).2
  rw [hcount] at hroots
  refine ⟨program, hload, hoperations, by decide, hregion, hroots.trans ?_⟩
  decide

end Load

end ProgramImage
