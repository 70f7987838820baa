import ProgramImage.Pattern.Language
import ProgramImage.Proofs.HeaderFields
import ProgramImage.Proofs.LoadedGlobals

/-!
# Strings of a loaded program

A string literal goes through a slot of the global buffer and, when it is long, through an
object of the heap. Its bytes can be had back from the loaded program: the slot stays what
it was as long as no later literal covers it, and the object stays what it was whatever
comes later, since objects are appended to the heap and never changed.

The state in the middle of a load is that of a shorter document: `Document.upTo` ends a
document after some of its literals.

## Main definitions

* `HeapObject.HoldsString` is what the object of a string looks like.
* `Heap.SlotHolds` says that a slot stands for a string, in the form of its length.
* `Load.AllocatesAt` says which literal an object is allocated for.

## Main statements

* `Load.load_upTo` is the heap after some of the literals.
* `Load.string_literal_survives` has a string back from the loaded program.
-/

namespace ProgramImage

/-! ### Objects and slots -/

/-- The object of a string is of the smallest buffer type with room for it, and new. Its
    payload is the string, with zeros behind it. -/
def HeapObject.HoldsString (object : HeapObject) (content : List UInt8) : Prop :=
  ∃ tid capacity, IsSmallestBuffer content.length tid capacity ∧ object.header.tid = tid ∧
    object.header.count = 0 ∧ object.header.marked = false ∧ object.header.young = true ∧
    object.data = content ++ List.replicate (capacity - content.length) 0

/-- A slot stands for a string, in the form that the length of the string asks for. -/
def Heap.SlotHolds (heap : Heap) (content : List UInt8) : StringSlot → Prop
  | .empty => content.length = 0
  | .inline held => held = content ∧ 1 ≤ content.length ∧ content.length ≤ 15
  | .heap obj length =>
    length = content.length ∧ 16 ≤ content.length ∧ content.length ≤ 128 ∧
      ∃ object, heap.get? obj = some object ∧ object.HoldsString content

/-- The object of a long string holds it. -/
theorem stringObject?_holdsString {content : List UInt8} (hlong : maxInlineString < content.length)
    (hfits : content.length ≤ maxBufferString) :
    ∃ object, stringObject? content = some object ∧ object.HoldsString content := by
  obtain ⟨tid, capacity, hsmallest, hobject⟩ := stringObject?_eq_some hlong hfits
  have htid : tid.value ≤ TypeId.max := by
    have hmem := hsmallest.1
    simp only [Reserved.stringBuffers, List.mem_cons, List.not_mem_nil, or_false] at hmem
    rcases hmem with h | h | h | h | h
    all_goals
      cases h
      decide
  obtain ⟨htype, hcount, hmarked, hyoung⟩ := HeaderWord.ofYoung_fields htid
  exact ⟨_, hobject, tid, capacity, hsmallest, htype, hcount, hmarked, hyoung, rfl⟩

/-- The slot of a string stands for it as soon as its object, if it needs one, is at the
    place that the slot refers to. -/
theorem Heap.slotHolds_ofContent {heap : Heap} {place : Nat} {content : List UInt8}
    (hfits : content.length ≤ maxBufferString)
    (hobject : maxInlineString < content.length → heap.get? ⟨place⟩ = stringObject? content) :
    heap.SlotHolds content (.ofContent place content) := by
  unfold StringSlot.ofContent
  by_cases hempty : content.length = 0
  · rw [if_pos hempty]
    exact hempty
  rw [if_neg hempty]
  by_cases hshort : content.length ≤ maxInlineString
  · rw [if_pos hshort]
    exact ⟨rfl, Nat.pos_of_ne_zero hempty, hshort⟩
  · rw [if_neg hshort]
    obtain ⟨object, hsome, hholds⟩ := stringObject?_holdsString (Nat.lt_of_not_le hshort) hfits
    refine ⟨rfl, Nat.lt_of_not_le hshort, hfits, object, ?_, hholds⟩
    rw [hobject (Nat.lt_of_not_le hshort), hsome]

/-! ### The heap in the middle of a load -/

/-- A document that ends after its first `m` literals. -/
def Document.upTo (doc : Document) (m : Nat) : Document :=
  { doc with literals := doc.literals.take m, validators := [], constants := [] }

namespace Load

variable {σ : Type} {patterns : PatternLanguage} {config : LoadConfig}
  {initializer : Initializer σ} {state : σ} {doc : Document} {program : Program}

/-- The heap of a loaded program holds the objects of its long strings, in the order of the
    literals. -/
theorem objects_of_load (hload : (load patterns config initializer state doc).outcome = .ok program)
    (hcode : RunsNoCode initializer doc) :
    program.memory.heap.objects.toList = stringObjects doc.literals := by
  obtain ⟨mask, before, -, hfresh, run⟩ := exists_literalRun hload hcode
  rw [run.objects, hfresh.objects]
  exact List.nil_append _

theorem get?_of_load (hload : (load patterns config initializer state doc).outcome = .ok program)
    (hcode : RunsNoCode initializer doc) (obj : ObjectRef) :
    program.memory.heap.get? obj = (stringObjects doc.literals)[obj.place]? := by
  rw [← objects_of_load hload hcode, Array.getElem?_toList]
  rfl

/-- A prefix of the literals is stored on the way to all of them. -/
theorem literals_take {registry : NameRegistry} {types : TypeTable} {table : RegexTable}
    {before after : Memory} {records : List LiteralRecord}
    (h : (literals registry types table before records).outcome = .ok after) (m : Nat) :
    ∃ mid, (literals registry types table before (records.take m)).outcome = .ok mid := by
  unfold literals at *
  rw [Traced.outcome_bind, Except.bind_eq_ok] at h
  obtain ⟨-, -, h⟩ := h
  rw [Traced.outcome_foldlM, ← List.take_append_drop m records, Except.foldlM_append_eq_ok] at h
  obtain ⟨mid, hmid, -⟩ := h
  refine ⟨mid, ?_⟩
  rw [Traced.outcome_bind, Traced.outcome_foldlM]
  exact hmid

/-- A document that loads also loads when it ends after some of its literals. -/
theorem load_upTo (hload : (load patterns config initializer state doc).outcome = .ok program)
    (hcode : RunsNoCode initializer doc) (m : Nat) :
    ∃ earlier, (load patterns config initializer state (doc.upTo m)).outcome = .ok earlier ∧
      ∀ obj, earlier.memory.heap.get? obj = (stringObjects (doc.literals.take m))[obj.place]? := by
  obtain ⟨run⟩ := static_eq_ok_iff.mp (static_of_load hload hcode)
  obtain ⟨mid, hmid⟩ := literals_take run.literals_ok m
  -- no phase before the literals looks at them, and nothing is left to do behind them
  have hstatic : (static patterns config (doc.upTo m)).outcome =
      .ok { program with memory := mid, regexes := run.regexes } :=
    static_eq_ok_iff.mpr ⟨{ run with literals_ok := hmid, validators_ok := rfl }⟩
  have hearlier : (load patterns config initializer state (doc.upTo m)).outcome = _ :=
    load_of_static hstatic rfl
  exact ⟨_, hearlier, get?_of_load hearlier (.inl rfl)⟩

/-- An object is allocated for the `i`-th literal: it is there after the literal, and not
    before. -/
def AllocatesAt (patterns : PatternLanguage) (config : LoadConfig) (initializer : Initializer σ)
    (state : σ) (doc : Document) (i : Nat) (obj : ObjectRef) : Prop :=
  ∃ before after, (load patterns config initializer state (doc.upTo i)).outcome = .ok before ∧
    (load patterns config initializer state (doc.upTo (i + 1))).outcome = .ok after ∧
    before.memory.heap.get? obj = none ∧ (after.memory.heap.get? obj).isSome

/-- The object of a literal is numbered by the long strings before it. -/
theorem allocatesAt_iff (hload : (load patterns config initializer state doc).outcome = .ok program)
    (hcode : RunsNoCode initializer doc) {i : Nat} {obj : ObjectRef} :
    AllocatesAt patterns config initializer state doc i obj ↔
      longStringsBefore doc.literals i ≤ obj.place ∧
        obj.place < longStringsBefore doc.literals (i + 1) := by
  obtain ⟨before, hbefore, hbeforeHeap⟩ := load_upTo hload hcode i
  obtain ⟨after, hafter, hafterHeap⟩ := load_upTo hload hcode (i + 1)
  have hnone : before.memory.heap.get? obj = none ↔
      longStringsBefore doc.literals i ≤ obj.place := by
    rw [hbeforeHeap, List.getElem?_eq_none_iff, length_stringObjects, longStringsBefore]
  have hsome : (after.memory.heap.get? obj).isSome ↔
      obj.place < longStringsBefore doc.literals (i + 1) := by
    rw [hafterHeap, Option.isSome_iff_ne_none, Ne, List.getElem?_eq_none_iff, Nat.not_le,
      length_stringObjects, longStringsBefore]
  rw [← hnone, ← hsome]
  constructor
  · rintro ⟨first, second, hfirst, hsecond, hget⟩
    rw [hbefore] at hfirst
    rw [hafter] at hsecond
    cases hfirst
    cases hsecond
    exact hget
  · exact fun hget => ⟨before, after, hbefore, hafter, hget⟩

/-- No object is allocated for two literals. -/
theorem allocatesAt_unique
    (hload : (load patterns config initializer state doc).outcome = .ok program)
    (hcode : RunsNoCode initializer doc) {i k : Nat} {obj : ObjectRef}
    (hi : AllocatesAt patterns config initializer state doc i obj)
    (hk : AllocatesAt patterns config initializer state doc k obj) : i = k := by
  obtain ⟨hilow, hihigh⟩ := (allocatesAt_iff hload hcode).mp hi
  obtain ⟨hklow, hkhigh⟩ := (allocatesAt_iff hload hcode).mp hk
  exact eq_of_longStringsBefore_bounds hilow hihigh hklow hkhigh

/-- The object of a long string stands behind those of the long strings before it. -/
theorem allocatesAt_long_iff
    (hload : (load patterns config initializer state doc).outcome = .ok program)
    (hcode : RunsNoCode initializer doc) {i : Nat} {record : LiteralRecord} {obj : ObjectRef}
    (hrecord : doc.literals[i]? = some record) (hlong : record.isLongString) :
    AllocatesAt patterns config initializer state doc i obj ↔
      obj = ⟨longStringsBefore doc.literals i⟩ := by
  have hsucc := longStringsBefore_succ hrecord
  rw [hlong, Bool.toNat_true] at hsucc
  rw [allocatesAt_iff hload hcode, hsucc]
  constructor
  · rintro ⟨hlow, hhigh⟩
    exact congrArg ObjectRef.mk (Nat.le_antisymm (Nat.le_of_lt_succ hhigh) hlow)
  · rintro rfl
    exact ⟨Nat.le_refl _, Nat.lt_succ_self _⟩

/-- Objects are only allocated for long strings. -/
theorem isLongString_of_allocatesAt
    (hload : (load patterns config initializer state doc).outcome = .ok program)
    (hcode : RunsNoCode initializer doc) {i : Nat} {record : LiteralRecord} {obj : ObjectRef}
    (hrecord : doc.literals[i]? = some record)
    (hallocates : AllocatesAt patterns config initializer state doc i obj) :
    record.isLongString = true := by
  obtain ⟨hlow, hhigh⟩ := (allocatesAt_iff hload hcode).mp hallocates
  by_contra hshort
  have hsucc := longStringsBefore_succ hrecord
  rw [Bool.eq_false_iff.mpr hshort, Bool.toNat_false] at hsucc
  omega

/-- Once an object is allocated, it is the same however the document goes on. -/
theorem get?_upTo_of_allocatesAt
    (hload : (load patterns config initializer state doc).outcome = .ok program)
    (hcode : RunsNoCode initializer doc) {i m : Nat} {obj : ObjectRef}
    (hallocates : AllocatesAt patterns config initializer state doc i obj) (hm : i < m) :
    ∃ earlier, (load patterns config initializer state (doc.upTo m)).outcome = .ok earlier ∧
      earlier.memory.heap.get? obj = program.memory.heap.get? obj := by
  obtain ⟨earlier, hearlier, hheap⟩ := load_upTo hload hcode m
  refine ⟨earlier, hearlier, ?_⟩
  have hmono : longStringsBefore doc.literals (i + 1) ≤ longStringsBefore doc.literals m :=
    longStringsBefore_mono _ hm
  have hbelow : obj.place < longStringsBefore doc.literals m :=
    Nat.lt_of_lt_of_le ((allocatesAt_iff hload hcode).mp hallocates).2 hmono
  rw [hheap, get?_of_load hload hcode]
  exact getElem?_stringObjects_take hbelow

/-- The object of a long string is found at its place in the loaded program. -/
theorem get?_of_long (hload : (load patterns config initializer state doc).outcome = .ok program)
    (hcode : RunsNoCode initializer doc) {i : Nat} {record : LiteralRecord}
    (hrecord : doc.literals[i]? = some record) (hlong : record.isLongString) :
    program.memory.heap.get? ⟨longStringsBefore doc.literals i⟩ =
      stringObject? record.content := by
  rw [get?_of_load hload hcode, getElem?_stringObjects hrecord hlong, LiteralRecord.object?,
    if_pos hlong]

/-- A string literal survives a load. Its slot, when no later literal overlaps it, is had back
    from the loaded program: it is read, stands for the text between the quotation marks, and has
    the form of its length. A text of sixteen bytes or more has an object, whatever happens to the
    slot: it is allocated for this literal and no other, holds the text, and once allocated it is
    the same however the document goes on. -/
theorem string_literal_survives
    (hload : (load patterns config initializer state doc).outcome = .ok program)
    (hcode : RunsNoCode initializer doc) (hcount : doc.literals.length ≤ max64) {i : Nat}
    {record : LiteralRecord} (hrecord : doc.literals[i]? = some record)
    (hstring : record.isString) :
    ∃ body, record.text.toList = '"' :: (body ++ ['"']) ∧
      (IsKept doc.literals i → ∃ slot,
        program.memory.globals.read record.start stringSlotSize = .ok slot.encode ∧
        StringSlot.decode? slot.encode = some slot ∧
        program.memory.heap.SlotHolds (Utf8.encode body) slot ∧
        ∀ obj length, slot = .heap obj length →
          AllocatesAt patterns config initializer state doc i obj) ∧
      (16 ≤ (Utf8.encode body).length →
        ∃ obj, AllocatesAt patterns config initializer state doc i obj) ∧
      ∀ obj, AllocatesAt patterns config initializer state doc i obj →
        (∀ k, AllocatesAt patterns config initializer state doc k obj ↔ k = i) ∧
        (∃ object, program.memory.heap.get? obj = some object ∧
          object.HoldsString (Utf8.encode body)) ∧
        ∀ m, i < m → ∃ earlier,
          (load patterns config initializer state (doc.upTo m)).outcome = .ok earlier ∧
            earlier.memory.heap.get? obj = program.memory.heap.get? obj := by
  obtain ⟨value, hdenotes, -, -, hread⟩ := literal_loaded hload hcode hrecord
  obtain ⟨body, htext, hcontent, hfits, hvalue⟩ := hdenotes.of_isString hstring
  have hlongString (hlong : maxInlineString < record.content.length) :
      record.isLongString = true :=
    LiteralRecord.isLongString_iff.mpr ⟨hstring, hlong, hfits⟩
  refine ⟨body, htext, ?_, ?_, ?_⟩
  · intro hkept
    have himage := hdenotes.image_of_isString hstring (longStringsBefore doc.literals i)
    have hplace : longStringsBefore doc.literals i < max64 := by
      have hle := longStringsBefore_le doc.literals i
      have hlt := (List.getElem?_eq_some_iff.mp hrecord).1
      omega
    have hslot := hread hkept (by rw [hvalue]; exact nofun)
    rw [himage, StringSlot.length_encode_ofContent] at hslot
    have hdecode :=
      StringSlot.decode?_encode (StringSlot.wellFormed_ofContent (fun _ => hplace) hfits)
    refine ⟨_, hslot, hdecode, ?_, ?_⟩
    · rw [← hcontent]
      exact Heap.slotHolds_ofContent hfits fun hlong =>
        get?_of_long hload hcode hrecord (hlongString hlong)
    · intro obj length hheap
      obtain ⟨rfl, hlong⟩ := StringSlot.ofContent_eq_heap hheap
      exact (allocatesAt_long_iff hload hcode hrecord (hlongString hlong)).mpr rfl
  · intro hlong
    rw [← hcontent] at hlong
    exact ⟨_, (allocatesAt_long_iff hload hcode hrecord (hlongString hlong)).mpr rfl⟩
  · intro obj hallocates
    have hlong := isLongString_of_allocatesAt hload hcode hrecord hallocates
    refine ⟨?_, ?_, fun m hm => get?_upTo_of_allocatesAt hload hcode hallocates hm⟩
    · intro k
      constructor
      · exact fun hk => allocatesAt_unique hload hcode hk hallocates
      · rintro rfl
        exact hallocates
    · obtain rfl := (allocatesAt_long_iff hload hcode hrecord hlong).mp hallocates
      obtain ⟨-, hover, -⟩ := LiteralRecord.isLongString_iff.mp hlong
      obtain ⟨object, hobject, hholds⟩ := stringObject?_holdsString hover hfits
      rw [hcontent] at hholds
      exact ⟨object, (get?_of_long hload hcode hrecord hlong).trans hobject, hholds⟩

theorem string_survives_in_mixedLiterals :
    ∃ program record, (load .basic .standard .absent () mixedLiterals).outcome = .ok program ∧
      RunsNoCode .absent mixedLiterals ∧ mixedLiterals.literals.length ≤ max64 ∧
      mixedLiterals.literals[0]? = some record ∧ record.isString = true ∧
      IsKept mixedLiterals.literals 0 ∧
      ∃ body slot obj, record.text.toList = '"' :: (body ++ ['"']) ∧
        StringSlot.decode? slot.encode = some slot ∧
        program.memory.heap.SlotHolds (Utf8.encode body) slot ∧
        AllocatesAt .basic .standard .absent () mixedLiterals 0 obj ∧
        ∃ object, program.memory.heap.get? obj = some object ∧
          object.HoldsString (Utf8.encode body) := by
  have hok : (load .basic .standard .absent () mixedLiterals).outcome.isOk = true := by
    decide +kernel
  obtain ⟨program, hload⟩ := Except.exists_of_isOk hok
  have hcode : RunsNoCode .absent mixedLiterals := .inl rfl
  have hcount : mixedLiterals.literals.length ≤ max64 := by decide
  have hkept : IsKept mixedLiterals.literals 0 := isKept_of_apart rfl (by decide)
  have hrecord : mixedLiterals.literals[0]? = some ⟨32, "String", "\"sixteen or longer\""⟩ := rfl
  obtain ⟨body, htext, hslot, hlong, hobjects⟩ :=
    string_literal_survives hload hcode hcount hrecord (by decide)
  obtain rfl : "sixteen or longer".toList = body :=
    List.append_cancel_right (List.cons.inj htext).2
  obtain ⟨slot, -, hdecode, hholds, -⟩ := hslot hkept
  obtain ⟨obj, hallocates⟩ := hlong (by decide)
  obtain ⟨-, hobject, -⟩ := hobjects obj hallocates
  exact ⟨program, _, hload, hcode, hcount, hrecord, by decide, hkept, _, slot, obj, htext, hdecode,
    hholds, hallocates, hobject⟩

end Load

end ProgramImage
