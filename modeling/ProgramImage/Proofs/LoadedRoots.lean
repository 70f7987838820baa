import Mathlib.Data.List.Nodup
import Mathlib.Data.List.Perm.Subperm
import ProgramImage.Pattern.Language
import ProgramImage.Proofs.LoadedStrings
import ProgramImage.Proofs.MaskWalk
import ProgramImage.Proofs.RootScan

/-!
# Roots of a loaded program

When every string literal is placed at a string slot of the global mask, no two at the same
one, and no other literal reaches into a slot that may hold a reference, the global roots
are exact: they are the objects of the heap, each of them once, in the order of the slots
that hold them.

## Main definitions

* `Document.KeepsSlots` says that the literals of a document agree with a mask.
* `longStringAt?` is the object of the long string at an offset.

## Main statements

* `Load.slotRef?_of_load` says what the root scan finds in the slots of a loaded program.
* `Load.globalRoots_exact` lists the roots of a loaded program.
-/

namespace ProgramImage

/-- The literals of a document agree with a mask of the global buffer: strings are placed
    at string slots, each at its own, and the other literals stay out of the slots that may
    hold a reference. -/
structure Document.KeepsSlots (doc : Document) (mask : Mask) : Prop where
  string_at : ∀ record ∈ doc.literals, record.isString → record.start ∈ mask.stringOffsets
  strings_apart : doc.literals.Pairwise fun first second =>
    first.isString → second.isString → first.start ≠ second.start
  others_outside : ∀ record ∈ doc.literals, ¬record.isString → ∀ slot ∈ mask.walk,
    slot.kind = .pointer ∨ slot.kind = .string →
      ∀ j < slot.stop, slot.offset ≤ j → ¬record.Covers j

/-- The object of the long string that is placed at an offset, if there is one. -/
def longStringAt? (literals : List LiteralRecord) (offset : Nat) : Option ObjectRef :=
  (literals.findIdx? fun record => record.isLongString && record.start == offset).map fun i =>
    ⟨longStringsBefore literals i⟩

/-! ### Literals in slots -/

namespace Document.KeepsSlots

variable {doc : Document} {mask : Mask} {slot : MaskSlot} {record : LiteralRecord}

/-- Strings at one offset are one literal. -/
theorem eq_of_start_eq (h : doc.KeepsSlots mask) {i k : Nat} {first second : LiteralRecord}
    (hfirst : doc.literals[i]? = some first) (hsecond : doc.literals[k]? = some second)
    (hfirstString : first.isString) (hsecondString : second.isString)
    (hstart : first.start = second.start) : i = k := by
  obtain ⟨hi, rfl⟩ := List.getElem?_eq_some_iff.mp hfirst
  obtain ⟨hk, rfl⟩ := List.getElem?_eq_some_iff.mp hsecond
  have hapart := List.pairwise_iff_getElem.mp h.strings_apart
  rcases Nat.lt_trichotomy i k with hlt | heq | hgt
  · exact absurd hstart (hapart i k hi hk hlt hfirstString hsecondString)
  · exact heq
  · exact absurd hstart.symm (hapart k i hk hi hgt hsecondString hfirstString)

/-- A literal that reaches into a slot with a reference is a string, and the slot is its
    own. -/
theorem eq_of_covers (h : doc.KeepsSlots mask) (hrecord : record ∈ doc.literals)
    (hslot : slot ∈ mask.walk) (hkind : slot.kind = .pointer ∨ slot.kind = .string) {j : Nat}
    (hlow : slot.offset ≤ j) (hhigh : j < slot.stop) (hcovers : record.Covers j) :
    record.isString = true ∧ slot = ⟨record.start, .string⟩ := by
  by_cases hstring : record.isString = true
  · refine ⟨hstring, ?_⟩
    have hown := Mask.mem_stringOffsets.mp (h.string_at record hrecord hstring)
    have hstop : (MaskSlot.mk record.start .string).stop = record.start + record.width := by
      rw [LiteralRecord.width_of_isString hstring]
      rfl
    unfold LiteralRecord.Covers at hcovers
    rcases Mask.apart_of_mem_walk hslot hown with heq | hbefore | hbehind
    · exact heq
    · change slot.stop ≤ record.start at hbefore
      omega
    · rw [hstop] at hbehind
      omega
  · exact absurd hcovers (h.others_outside record hrecord hstring slot hslot hkind j hhigh hlow)

theorem isKept (h : doc.KeepsSlots mask) {i : Nat} (hrecord : doc.literals[i]? = some record)
    (hstring : record.isString) : IsKept doc.literals i := by
  have hmem := List.mem_of_getElem? hrecord
  have hslot := Mask.mem_stringOffsets.mp (h.string_at record hmem hstring)
  intro same j hsame hcovers
  obtain rfl : record = same := Option.some.inj (hrecord.symm.trans hsame)
  refine ⟨⟨record, hrecord, hcovers⟩, ?_⟩
  intro k later hk hlater hj
  have hstop : j < (MaskSlot.mk record.start .string).stop := by
    have hhigh := hcovers.2
    rwa [LiteralRecord.width_of_isString hstring] at hhigh
  obtain ⟨hlaterString, heq⟩ :=
    h.eq_of_covers (List.mem_of_getElem? hlater) hslot (.inr rfl) hcovers.1 hstop hj
  have hstart : record.start = later.start := congrArg MaskSlot.offset heq
  have hik := h.eq_of_start_eq hrecord hlater hstring hlaterString hstart
  omega

/-- The long string at an offset is found by its object. -/
theorem longStringAt?_eq_some_iff (h : doc.KeepsSlots mask) {offset : Nat} {obj : ObjectRef} :
    longStringAt? doc.literals offset = some obj ↔
      ∃ i record, doc.literals[i]? = some record ∧ record.isLongString ∧
        record.start = offset ∧ obj = ⟨longStringsBefore doc.literals i⟩ := by
  unfold longStringAt?
  rw [Option.map_eq_some_iff]
  constructor
  · rintro ⟨i, hfind, rfl⟩
    obtain ⟨hi, htest, -⟩ := List.findIdx?_eq_some_iff_getElem.mp hfind
    obtain ⟨hlong, hstart⟩ := Bool.and_eq_true_iff.mp htest
    exact ⟨i, _, List.getElem?_eq_getElem hi, hlong, eq_of_beq hstart, rfl⟩
  · rintro ⟨i, record, hrecord, hlong, hstart, rfl⟩
    refine ⟨i, ?_, rfl⟩
    obtain ⟨hi, hget⟩ := List.getElem?_eq_some_iff.mp hrecord
    refine List.findIdx?_eq_some_iff_getElem.mpr ⟨hi, ?_, ?_⟩
    · rw [hget, hlong, hstart, beq_self_eq_true, Bool.and_self]
    · intro k hk htest
      obtain ⟨hfirstLong, hfirstStart⟩ := Bool.and_eq_true_iff.mp htest
      have hsame := h.eq_of_start_eq (List.getElem?_eq_getElem (by omega)) hrecord
        (LiteralRecord.isLongString_iff.mp hfirstLong).1
        (LiteralRecord.isLongString_iff.mp hlong).1 ((eq_of_beq hfirstStart).trans hstart.symm)
      omega

end Document.KeepsSlots

/-! ### Slots of a loaded program -/

namespace Load

variable {σ : Type} {patterns : PatternLanguage} {config : LoadConfig} {initializer : Initializer σ}
  {state : σ} {doc : Document} {program : Program} {mask : Mask} {slot : MaskSlot}

/-- The region of roots of a loaded program is its global buffer, with a mask that fits. -/
theorem roots_of_load (hload : (load patterns config initializer state doc).outcome = .ok program)
    (hcode : RunsNoCode initializer doc) (hmask : Mask.parse doc.globalMask = .ok mask) :
    program.memory.heap.roots.global = some ⟨doc.globalSize.toNat, mask⟩ ∧
      mask.covered ≤ doc.globalSize.toNat := by
  obtain ⟨found, before, hfound, hfresh, run⟩ := exists_literalRun hload hcode
  obtain rfl : mask = found := Except.ok.inj (hmask.symm.trans hfound)
  rw [run.roots_eq]
  exact ⟨hfresh.roots, hfresh.covered_le⟩

/-- A slot without a string in it refers to nothing. -/
theorem slotRef?_of_no_string
    (hload : (load patterns config initializer state doc).outcome = .ok program)
    (hcode : RunsNoCode initializer doc) (hmask : Mask.parse doc.globalMask = .ok mask)
    (hslots : doc.KeepsSlots mask) (hslot : slot ∈ mask.walk)
    (hnone : ∀ record ∈ doc.literals, record.isString → slot ≠ ⟨record.start, .string⟩) :
    Heap.slotRef? program.memory.globals.bytes slot = none := by
  obtain ⟨-, hcovered⟩ := roots_of_load hload hcode hmask
  have hsize := globals_size_of_load hload hcode
  have hstop := Mask.stop_le_covered hslot
  have hread : slot.kind = .pointer ∨ slot.kind = .string → ∀ width ≤ slot.kind.width,
      program.memory.globals.read slot.offset width = .ok (List.replicate width 0) := by
    intro hkind width hwidth
    have hend : slot.offset + width ≤ slot.stop := Nat.add_le_add_left hwidth _
    have hzeros : program.memory.globals.read slot.offset
        (List.replicate width (0 : UInt8)).length = .ok (List.replicate width 0) := by
      apply GlobalStore.read_eq_ok
      · rw [List.length_replicate]
        omega
      · intro k hk
        rw [List.length_replicate] at hk
        rw [List.getElem?_replicate, if_pos hk]
        apply globals_zero_of_load hload hcode (by omega)
        intro record hrecord hcovers
        obtain ⟨hstring, heq⟩ :=
          hslots.eq_of_covers hrecord hslot hkind (by omega) (by omega) hcovers
        exact hnone record hrecord hstring heq
    rwa [List.length_replicate] at hzeros
  obtain ⟨offset, kind⟩ := slot
  cases kind with
  | pointer =>
    rw [Heap.slotRef?_pointer (hread (.inl rfl) _ (Nat.le_refl _)),
      LittleEndian.decode_replicate_zero]
    rfl
  | string =>
    rw [Heap.slotRef?_string (hread (.inr rfl) _ (Nat.le_refl _))]
    rfl
  | skip | bigNum | union =>
    unfold Heap.slotRef?
    cases Heap.wordAt? program.memory.globals.bytes offset <;> rfl

/-- The long strings of a document are fewer than the words of a buffer that keeps them
    apart, so the number of every object fits a word. -/
theorem longStringsBefore_lt_max64
    (hload : (load patterns config initializer state doc).outcome = .ok program)
    (hcode : RunsNoCode initializer doc) (hslots : doc.KeepsSlots mask) {i : Nat}
    {record : LiteralRecord} (hrecord : doc.literals[i]? = some record)
    (hlong : record.isLongString) : longStringsBefore doc.literals i < max64 := by
  -- the strings start at different places of the buffer, whose size fits a word
  let starts := (doc.literals.filter LiteralRecord.isLongString).map LiteralRecord.start
  have hnodup : starts.Nodup := by
    change List.Pairwise _ (List.map _ _)
    rw [List.pairwise_map, List.pairwise_filter]
    refine hslots.strings_apart.imp ?_
    intro first second hapart hfirst hsecond
    exact hapart (LiteralRecord.isLongString_iff.mp hfirst).1
      (LiteralRecord.isLongString_iff.mp hsecond).1
  have hinside : starts ⊆ List.range doc.globalSize.toNat := by
    intro start hstart
    obtain ⟨other, hmem, rfl⟩ := List.mem_map.mp hstart
    obtain ⟨hother, hotherLong⟩ := List.mem_filter.mp hmem
    obtain ⟨k, hk⟩ := List.mem_iff_getElem?.mp hother
    obtain ⟨value, -, hcovered, -⟩ := literal_loaded hload hcode hk
    have hwidth := LiteralRecord.width_of_isString (LiteralRecord.isLongString_iff.mp hotherLong).1
    refine List.mem_range.mpr (hcovered other.start ⟨Nat.le_refl _, ?_⟩)
    rw [hwidth]
    exact Nat.lt_add_of_pos_right (by decide)
  have hlength := (hnodup.subperm hinside).length_le
  rw [List.length_map, ← List.countP_eq_length_filter, List.length_range] at hlength
  have hlt := longStringsBefore_lt hrecord hlong
  have hword : doc.globalSize.toNat ≤ max64 := Nat.le_of_lt_succ (UInt64.toNat_lt _)
  omega

/-- A slot with a string in it refers to the object of the string, if it is long. -/
theorem slotRef?_of_string
    (hload : (load patterns config initializer state doc).outcome = .ok program)
    (hcode : RunsNoCode initializer doc) (hslots : doc.KeepsSlots mask) {i : Nat}
    {record : LiteralRecord} (hrecord : doc.literals[i]? = some record)
    (hstring : record.isString) :
    Heap.slotRef? program.memory.globals.bytes ⟨record.start, .string⟩ =
      if record.isLongString then some ⟨longStringsBefore doc.literals i⟩ else none := by
  obtain ⟨value, hdenotes, -, -, hread⟩ := literal_loaded hload hcode hrecord
  obtain ⟨body, -, -, hfits, hvalue⟩ := hdenotes.of_isString hstring
  have hslot := hread (hslots.isKept hrecord hstring) (by rw [hvalue]; exact nofun)
  rw [hdenotes.image_of_isString hstring, StringSlot.length_encode_ofContent] at hslot
  have hlong : record.isLongString ↔ maxInlineString < record.content.length :=
    LiteralRecord.isLongString_iff.trans ⟨fun h => h.2.1, fun h => ⟨hstring, h, hfits⟩⟩
  have hplace : maxInlineString < record.content.length →
      longStringsBefore doc.literals i < max64 :=
    fun h => longStringsBefore_lt_max64 hload hcode hslots hrecord (hlong.mpr h)
  rw [Heap.slotRef?_string hslot,
    StringSlot.decode?_encode (StringSlot.wellFormed_ofContent hplace hfits), Option.bind_some]
  by_cases hobject : maxInlineString < record.content.length
  · rw [if_pos (hlong.mpr hobject), StringSlot.ofContent, if_neg (by omega), if_neg (by omega)]
    rfl
  · rw [if_neg (mt hlong.mp hobject), StringSlot.ofContent]
    split
    · rfl
    · rw [if_pos (Nat.le_of_not_lt hobject)]
      rfl

/-- What the root scan finds in a slot of a loaded program: the object of the long string
    that is placed there, and nothing in any other slot. -/
theorem slotRef?_of_load
    (hload : (load patterns config initializer state doc).outcome = .ok program)
    (hcode : RunsNoCode initializer doc) (hmask : Mask.parse doc.globalMask = .ok mask)
    (hslots : doc.KeepsSlots mask) (hslot : slot ∈ mask.walk) {obj : ObjectRef} :
    Heap.slotRef? program.memory.globals.bytes slot = some obj ↔
      slot.kind = .string ∧ longStringAt? doc.literals slot.offset = some obj := by
  rw [hslots.longStringAt?_eq_some_iff]
  by_cases hown : ∃ record ∈ doc.literals, record.isString ∧ slot = ⟨record.start, .string⟩
  · obtain ⟨record, hmem, hstring, rfl⟩ := hown
    obtain ⟨i, hrecord⟩ := List.mem_iff_getElem?.mp hmem
    rw [slotRef?_of_string hload hcode hslots hrecord hstring]
    constructor
    · intro h
      obtain ⟨hlong, hobj⟩ := Option.ite_none_right_eq_some.mp h
      exact ⟨rfl, i, record, hrecord, hlong, rfl, (Option.some.inj hobj).symm⟩
    · rintro ⟨-, k, other, hother, hlong, hstart, rfl⟩
      obtain rfl : k = i := hslots.eq_of_start_eq hother hrecord
        (LiteralRecord.isLongString_iff.mp hlong).1 hstring hstart
      obtain rfl : other = record := Option.some.inj (hother.symm.trans hrecord)
      rw [if_pos hlong]
  · have hnone : ∀ record ∈ doc.literals, record.isString → slot ≠ ⟨record.start, .string⟩ :=
      fun record hrecord hstring heq => hown ⟨record, hrecord, hstring, heq⟩
    rw [slotRef?_of_no_string hload hcode hmask hslots hslot hnone]
    constructor
    · intro h
      cases h
    · rintro ⟨hkind, k, other, hother, hlong, hstart, -⟩
      refine absurd ?_ (hnone other (List.mem_of_getElem? hother)
        (LiteralRecord.isLongString_iff.mp hlong).1)
      rw [hstart, ← hkind]

/-! ### All roots -/

/-- The objects of the long strings in the slots of a mask are those of all long strings. -/
theorem mem_filterMap_longStringAt? (hslots : doc.KeepsSlots mask) {obj : ObjectRef} :
    obj ∈ mask.stringOffsets.filterMap (longStringAt? doc.literals) ↔
      ∃ i record, doc.literals[i]? = some record ∧ record.isLongString ∧
        obj = ⟨longStringsBefore doc.literals i⟩ := by
  rw [List.mem_filterMap]
  constructor
  · rintro ⟨offset, -, hfound⟩
    obtain ⟨i, record, hrecord, hlong, -, hobj⟩ := hslots.longStringAt?_eq_some_iff.mp hfound
    exact ⟨i, record, hrecord, hlong, hobj⟩
  · rintro ⟨i, record, hrecord, hlong, hobj⟩
    have hstring := (LiteralRecord.isLongString_iff.mp hlong).1
    exact ⟨record.start, hslots.string_at record (List.mem_of_getElem? hrecord) hstring,
      hslots.longStringAt?_eq_some_iff.mpr ⟨i, record, hrecord, hlong, rfl, hobj⟩⟩

/-- No two slots of a mask hold the object of one long string. -/
theorem nodup_filterMap_longStringAt? (hslots : doc.KeepsSlots mask) :
    (mask.stringOffsets.filterMap (longStringAt? doc.literals)).Nodup := by
  refine List.Nodup.filterMap ?_ mask.nodup_stringOffsets
  intro first second obj hfirst hsecond
  obtain ⟨i, record, hrecord, hlong, rfl, rfl⟩ := hslots.longStringAt?_eq_some_iff.mp hfirst
  obtain ⟨k, other, hother, hotherLong, rfl, hobj⟩ := hslots.longStringAt?_eq_some_iff.mp hsecond
  have hik : i = k :=
    longStringsBefore_inj hrecord hother hlong hotherLong (congrArg ObjectRef.place hobj)
  rw [hik, hother] at hrecord
  rw [Option.some.inj hrecord]

/-- The heap of a loaded program has one object for each long string. -/
theorem heap_count_of_load
    (hload : (load patterns config initializer state doc).outcome = .ok program)
    (hcode : RunsNoCode initializer doc) :
    program.memory.heap.count = doc.literals.countP LiteralRecord.isLongString := by
  rw [← length_stringObjects, ← objects_of_load hload hcode]
  exact Array.length_toList.symm

/-- The global roots of a loaded program whose literals agree with its mask are, slot by
    slot, the objects of the long strings that are placed there. These are all objects of
    the heap, each of them once, and exactly those that were allocated for a long string. -/
theorem globalRoots_exact
    (hload : (load patterns config initializer state doc).outcome = .ok program)
    (hcode : RunsNoCode initializer doc) (hmask : Mask.parse doc.globalMask = .ok mask)
    (hslots : doc.KeepsSlots mask) :
    program.globalRoots = mask.stringOffsets.filterMap (longStringAt? doc.literals) ∧
      program.globalRoots.Perm
        ((List.range program.memory.heap.count).map fun place => ⟨place⟩) ∧
      ∀ obj, obj ∈ program.globalRoots ↔
        ∃ i record, doc.literals[i]? = some record ∧ record.isLongString ∧
          AllocatesAt patterns config initializer state doc i obj := by
  have hcount := heap_count_of_load hload hcode
  have hroots : program.globalRoots =
      mask.stringOffsets.filterMap (longStringAt? doc.literals) := by
    obtain ⟨hregion, -⟩ := roots_of_load hload hcode hmask
    have hfound : mask.walk.filterMap (Heap.slotRef? program.memory.globals.bytes) =
        mask.stringOffsets.filterMap (longStringAt? doc.literals) := by
      rw [Mask.stringOffsets, List.filterMap_map, List.filterMap_filter]
      apply List.filterMap_congr
      intro slot hslot
      apply Option.ext
      intro obj
      rw [slotRef?_of_load hload hcode hmask hslots hslot, Option.ite_none_right_eq_some,
        beq_iff_eq, Function.comp_apply]
    rw [Program.globalRoots, Memory.globalRoots, Heap.globalRoots, hregion]
    dsimp only
    -- every object that is found is in the heap, so the scan drops none of them
    rw [hfound, List.filter_eq_self]
    intro obj hobj
    obtain ⟨i, record, hrecord, hlong, rfl⟩ := (mem_filterMap_longStringAt? hslots).mp hobj
    rw [hcount]
    exact decide_eq_true (longStringsBefore_lt hrecord hlong)
  refine ⟨hroots, ?_, ?_⟩
  · rw [hroots, hcount]
    refine (List.perm_ext_iff_of_nodup (nodup_filterMap_longStringAt? hslots) ?_).mpr ?_
    · exact List.nodup_range.map fun _ _ h => congrArg ObjectRef.place h
    · intro obj
      rw [mem_filterMap_longStringAt? hslots, List.mem_map]
      constructor
      · rintro ⟨i, record, hrecord, hlong, rfl⟩
        exact ⟨_, List.mem_range.mpr (longStringsBefore_lt hrecord hlong), rfl⟩
      · rintro ⟨place, hplace, rfl⟩
        obtain ⟨i, record, hrecord, hlong, rfl⟩ := exists_longString (List.mem_range.mp hplace)
        exact ⟨i, record, hrecord, hlong, rfl⟩
  · intro obj
    rw [hroots, mem_filterMap_longStringAt? hslots]
    constructor
    · rintro ⟨i, record, hrecord, hlong, hobj⟩
      exact ⟨i, record, hrecord, hlong,
        (allocatesAt_long_iff hload hcode hrecord hlong).mpr hobj⟩
    · rintro ⟨i, record, hrecord, hlong, hobj⟩
      exact ⟨i, record, hrecord, hlong,
        (allocatesAt_long_iff hload hcode hrecord hlong).mp hobj⟩

/-- In a document whose strings are not in the order of their slots, neither are the objects
    in the order of the roots. -/
theorem globalRoots_of_mixedLiterals :
    ∃ program mask, (load .basic .standard .absent () mixedLiterals).outcome = .ok program ∧
      RunsNoCode .absent mixedLiterals ∧
      Mask.parse mixedLiterals.globalMask = .ok mask ∧
      mixedLiterals.KeepsSlots mask ∧ program.globalRoots = [⟨1⟩, ⟨0⟩] := by
  have hok : (load .basic .standard .absent () mixedLiterals).outcome.isOk = true := by
    decide +kernel
  obtain ⟨program, hload⟩ := Except.exists_of_isOk hok
  have hcode : RunsNoCode .absent mixedLiterals := .inl rfl
  have hmask : Mask.parse mixedLiterals.globalMask =
      .ok ⟨[.string, .string, .string, .pointer, .skip, .skip]⟩ := by decide
  have hslots : mixedLiterals.KeepsSlots
      ⟨[.string, .string, .string, .pointer, .skip, .skip]⟩ := by
    constructor
    · decide
    · decide
    · decide
  have hroots := (globalRoots_exact hload hcode hmask hslots).1
  refine ⟨program, _, hload, hcode, hmask, hslots, hroots.trans ?_⟩
  decide

end Load

end ProgramImage
