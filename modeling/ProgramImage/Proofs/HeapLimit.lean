import ProgramImage.Pattern.Language
import ProgramImage.Proofs.HeapRun
import ProgramImage.Proofs.Settings

/-!
# The limit of the heap in a load

What a load allocates is known from its document: every string of 16 to 128 bytes takes the
smallest buffer with room for it, and the header of an object. A limit of the heap is compared
with the sum of these bytes, literal by literal; a load within the limit is the load without one.

Both loads are gone through together. As long as the heap is within the limit, each step does the
same in both, or leaves the heap of the one larger than the limit and stops the other.

## Main definitions

* `heapNeed` is the sum of the bytes that the long strings among some literals take.
* `Heap.GrowsTo` says that a heap comes from another by at most one allocation, and `HeapUse` is
  what a value asks of the heap that it is stored with.
* `Memory.withLimit` and `Program.withLimit` set the limit and leave the rest.
* `Initializer.IgnoresMemory` says that computing a constant has nothing to do with the memory.

## Main statements

* `Heap.allocate_setLimit`, `HeapUse.run_setLimit` and `Load.storeLiteral_withLimit` are one step
  under a limit: an allocation, what a value asks for, and a literal.
* `Load.literals_of_limit` is the run of the literals under a limit.
* `Load.load_of_heapLimit` is the whole load.
-/

namespace ProgramImage

/-! ### The bytes of long strings -/

/-- The capacity of the smallest string buffer with room for a string of a given length. -/
def smallestCapacity (length : Nat) : Nat :=
  ((Reserved.stringBuffers.map Prod.snd).filter (length ≤ ·)).min?.getD 0

theorem IsSmallestBuffer.capacity_eq {length capacity : Nat} {tid : TypeId}
    (h : IsSmallestBuffer length tid capacity) : smallestCapacity length = capacity := by
  obtain ⟨hmem, hroom, hleast⟩ := h
  have hmin : ((Reserved.stringBuffers.map Prod.snd).filter (length ≤ ·)).min? =
      some capacity := by
    rw [List.min?_eq_some_iff]
    refine ⟨List.mem_filter.mpr ⟨List.mem_map_of_mem hmem, decide_eq_true hroom⟩, ?_⟩
    intro other hother
    obtain ⟨hother, hfits⟩ := List.mem_filter.mp hother
    obtain ⟨buffer, hbuffer, rfl⟩ := List.mem_map.mp hother
    exact hleast buffer hbuffer (of_decide_eq_true hfits)
  rw [smallestCapacity, hmin, Option.getD_some]

/-- The bytes that the long strings among some literals take in the heap, each with the header of
    its object. -/
def heapNeed (literals : List LiteralRecord) : Nat :=
  ((literals.filter LiteralRecord.isLongString).map fun record =>
    smallestCapacity record.content.length + wordSize).sum

theorem heapNeed_append (first second : List LiteralRecord) :
    heapNeed (first ++ second) = heapNeed first + heapNeed second := by
  unfold heapNeed
  rw [List.filter_append, List.map_append, List.sum_append]

theorem heapNeed_of_short {record : LiteralRecord} (h : ¬record.isLongString = true) :
    heapNeed [record] = 0 := by
  unfold heapNeed
  rw [List.filter_cons_of_neg h]
  rfl

/-- The object of a long string takes the smallest buffer and a header. -/
theorem LiteralRecord.footprint_object {record : LiteralRecord} {object : HeapObject}
    (h : record.object? = some object) :
    record.isLongString = true ∧
      object.footprint = smallestCapacity record.content.length + wordSize := by
  have hlong : record.isLongString = true := by rw [← isSome_object?, h]; rfl
  obtain ⟨-, hinline, hbuffer⟩ := isLongString_iff.mp hlong
  obtain ⟨tid, capacity, hsmallest, hobject⟩ := stringObject?_eq_some hinline hbuffer
  rw [object?, if_pos hlong, hobject] at h
  obtain rfl := Option.some.inj h
  have hroom := hsmallest.2.1
  refine ⟨hlong, ?_⟩
  rw [hsmallest.capacity_eq, HeapObject.footprint, List.length_append, List.length_replicate,
    Nat.add_sub_cancel' hroom]

theorem sum_footprint_stringObjects (literals : List LiteralRecord) :
    ((stringObjects literals).map HeapObject.footprint).sum = heapNeed literals := by
  induction literals with
  | nil => rfl
  | cons record rest ih =>
    unfold stringObjects heapNeed at *
    cases hobject : record.object? with
    | none =>
      have hshort : ¬record.isLongString = true := by
        rw [← LiteralRecord.isSome_object?, hobject]
        exact Bool.false_ne_true
      rw [List.filterMap_cons_none hobject, List.filter_cons_of_neg hshort, ih]
    | some object =>
      obtain ⟨hlong, hbytes⟩ := LiteralRecord.footprint_object hobject
      rw [List.filterMap_cons_some hobject, List.filter_cons_of_pos hlong, List.map_cons,
        List.map_cons, List.sum_cons, List.sum_cons, ih, hbytes]

/-! ### Growth of the heap -/

/-- A heap comes from another by at most one allocation. -/
def Heap.GrowsTo (heap later : Heap) : Prop :=
  later = heap ∨ ∃ desc payload obj, heap.allocate desc payload = .ok (obj, later)

theorem Heap.IsAccounted.growsTo {heap later : Heap} (h : heap.IsAccounted)
    (hgrows : heap.GrowsTo later) : later.IsAccounted := by
  rcases hgrows with rfl | ⟨desc, payload, obj, hallocate⟩
  · exact h
  · obtain ⟨hnone, -, rfl⟩ := allocate_eq_ok_iff.mp hallocate
    exact h.grown (refusal?_eq_none_iff.mp hnone).2.2.1

theorem Heap.GrowsTo.allocatedBytes_le {heap later : Heap} (hgrows : heap.GrowsTo later) :
    heap.allocatedBytes ≤ later.allocatedBytes := by
  rcases hgrows with rfl | ⟨desc, payload, obj, hallocate⟩
  · exact Nat.le_refl _
  · obtain ⟨-, -, rfl⟩ := allocate_eq_ok_iff.mp hallocate
    exact Nat.le_add_right _ _

/-- An allocation that succeeds without a limit succeeds under one when the heap stays within
    it. -/
theorem Heap.allocate_setLimit {heap later : Heap} {desc : TypeDescriptor} {payload : List UInt8}
    {obj : ObjectRef} {limit : Nat} (hlimit : 0 < limit)
    (h : heap.allocate desc payload = .ok (obj, later)) :
    (heap.setLimit limit).allocate desc payload =
      if later.allocatedBytes ≤ limit then .ok (obj, later.setLimit limit)
      else .error (.limitExceeded limit) := by
  obtain ⟨hnone, rfl, rfl⟩ := allocate_eq_ok_iff.mp h
  obtain ⟨htid, hform, hlength, -⟩ := refusal?_eq_none_iff.mp hnone
  split
  · next hroom =>
    exact allocate_eq_ok_iff.mpr
      ⟨refusal?_eq_none_iff.mpr ⟨htid, hform, hlength, fun _ => hroom⟩, rfl, rfl⟩
  · next hfull =>
    have hover : limit < heap.allocatedBytes + (desc.size.heapSize + wordSize) :=
      Nat.lt_of_not_le hfull
    rw [allocate_eq_error_iff]
    simp [refusal?, refusals, setLimit, htid, hform, hlength, hlimit, hover]

/-! ### Values under a limit -/

/-- What a computation asks of a heap: nothing, or one object. -/
inductive HeapUse (α : Type) where
  | nothing (result : Except LiteralError α)
  | object (desc : TypeDescriptor) (payload : List UInt8) (result : ObjectRef → α)

namespace HeapUse

variable {α : Type} {use : HeapUse α} {a : α} {heap later : Heap} {limit : Nat}

/-- The result of a computation, and the heap with its object. -/
def run (heap : Heap) : HeapUse α → Except LiteralError (α × Heap)
  | nothing result => result.map fun a => (a, heap)
  | object desc payload result =>
    match heap.allocate desc payload with
    | .ok (obj, later) => .ok (result obj, later)
    | .error error => .error (.heap error)

theorem growsTo (h : use.run heap = .ok (a, later)) : heap.GrowsTo later := by
  cases use with
  | nothing result =>
    obtain ⟨b, -, hpair⟩ := Except.map_eq_ok.mp h
    cases hpair
    exact .inl rfl
  | object desc payload result =>
    simp only [run] at h
    split at h
    · next obj grown hallocate =>
      cases h
      exact .inr ⟨desc, payload, obj, hallocate⟩
    · cases h

theorem run_setLimit (hlimit : 0 < limit) (hroom : heap.allocatedBytes ≤ limit)
    (h : use.run heap = .ok (a, later)) :
    use.run (heap.setLimit limit) =
      if later.allocatedBytes ≤ limit then .ok (a, later.setLimit limit)
      else .error (.heap (.limitExceeded limit)) := by
  cases use with
  | nothing result =>
    obtain ⟨b, rfl, hpair⟩ := Except.map_eq_ok.mp h
    cases hpair
    exact (if_pos hroom).symm
  | object desc payload result =>
    simp only [run] at h ⊢
    split at h
    · next obj grown hallocate =>
      cases h
      rw [Heap.allocate_setLimit hlimit hallocate]
      by_cases hfits : later.allocatedBytes ≤ limit
      · rw [if_pos hfits, if_pos hfits]
      · rw [if_neg hfits, if_neg hfits]
    · cases h

end HeapUse

namespace Literal

/-- What a string asks of the heap depends on its bytes. -/
theorem exists_stringSlot_use (types : TypeTable) (content : List UInt8) :
    ∃ use : HeapUse StringSlot, ∀ heap, stringSlot types heap content = use.run heap := by
  unfold stringSlot
  by_cases hempty : content.isEmpty
  · exact ⟨.nothing (.ok .empty), fun heap => if_pos hempty⟩
  simp only [if_neg hempty]
  cases StringSlot.ofShort? content with
  | some slot => exact ⟨.nothing (.ok slot), fun heap => rfl⟩
  | none =>
    cases stringBufferFor? content.length with
    | none =>
      exact ⟨.nothing (.error (.stringTooLong content.length maxBufferString)), fun heap => rfl⟩
    | some buffer =>
      obtain ⟨tid, capacity⟩ := buffer
      dsimp only
      cases types.type? tid with
      | none => exact ⟨.nothing (.error (.missingRepr tid)), fun heap => rfl⟩
      | some desc =>
        exact ⟨.object desc content fun obj => .heap obj content.length, fun heap => rfl⟩

/-- What a value asks of the heap depends on the value. -/
theorem exists_encode_use (types : TypeTable) (value : Literal) :
    ∃ use : HeapUse (List UInt8), ∀ heap, value.encode types heap = use.run heap := by
  cases value with
  | string value =>
    obtain ⟨use, huse⟩ := exists_stringSlot_use types (Utf8.encode value.toList)
    simp only [encode, huse]
    cases use with
    | nothing result =>
      refine ⟨.nothing (result.map StringSlot.encode), fun heap => ?_⟩
      cases result <;> rfl
    | object desc payload result =>
      refine ⟨.object desc payload fun obj => (result obj).encode, fun heap => ?_⟩
      unfold HeapUse.run
      dsimp only
      cases heap.allocate desc payload <;> rfl
  | _ => exact ⟨.nothing (.ok _), fun heap => rfl⟩

end Literal

/-- The memory under a limit of the heap. -/
def Memory.withLimit (memory : Memory) (limit : Nat) : Memory :=
  { memory with heap := memory.heap.setLimit limit }

theorem Memory.write_eq_ok {memory later : Memory} {offset : Nat} {content : List UInt8}
    (h : memory.write offset content = (.ok (), later)) :
    later.heap = memory.heap ∧ ∀ heap : Heap,
      ({ memory with heap } : Memory).write offset content = (.ok (), { later with heap }) := by
  obtain ⟨hfits, rfl⟩ := write_eq_ok_iff.mp h
  exact ⟨rfl, fun heap => write_of_le hfits⟩

namespace Literal

variable {types : TypeTable} {regexes : RegexTable} {value : Literal} {memory after : Memory}
  {offset limit : Nat}

theorem store_growsTo (h : value.store types memory offset = (.ok (), after)) :
    memory.heap.GrowsTo after.heap := by
  by_cases hunit : value = .unit
  · subst hunit
    cases h
    exact .inl rfl
  · obtain ⟨bytes, heap, hencode, hwrite⟩ := write_of_store hunit h
    obtain ⟨use, huse⟩ := exists_encode_use types value
    rw [(Memory.write_eq_ok hwrite).1]
    exact HeapUse.growsTo ((huse memory.heap).symm.trans hencode)

theorem store_withLimit (hlimit : 0 < limit) (hroom : memory.heap.allocatedBytes ≤ limit)
    (h : value.store types memory offset = (.ok (), after)) :
    value.store types (memory.withLimit limit) offset =
      if after.heap.allocatedBytes ≤ limit then (.ok (), after.withLimit limit)
      else (.error (.heap (.limitExceeded limit)), memory.withLimit limit) := by
  by_cases hunit : value = .unit
  · subst hunit
    cases h
    exact (if_pos hroom).symm
  · obtain ⟨bytes, heap, hencode, hwrite⟩ := write_of_store hunit h
    obtain ⟨hheap, hwrites⟩ := Memory.write_eq_ok hwrite
    obtain ⟨use, huse⟩ := exists_encode_use types value
    have hlimited := HeapUse.run_setLimit hlimit hroom ((huse memory.heap).symm.trans hencode)
    -- the object is allocated before its slot is written, so the limit is found first
    rw [store_of_ne_unit hunit, Memory.withLimit, huse, hlimited, hheap]
    by_cases hfits : heap.allocatedBytes ≤ limit
    · have hwritten := hwrites (heap.setLimit limit)
      rw [if_pos hfits, if_pos hfits]
      simp only [hwritten]
      rw [Memory.withLimit, hheap]
      rfl
    · rw [if_neg hfits, if_neg hfits]

theorem place_growsTo {tid : TypeId} {text : String}
    (h : place types regexes memory offset tid text = (.ok value, after)) :
    memory.heap.GrowsTo after.heap :=
  store_growsTo (place_eq_ok_iff.mp h).2

/-- A literal that is placed without a limit is placed under one when the heap stays within it. -/
theorem place_withLimit {tid : TypeId} {text : String} (hlimit : 0 < limit)
    (hroom : memory.heap.allocatedBytes ≤ limit)
    (h : place types regexes memory offset tid text = (.ok value, after)) :
    place types regexes (memory.withLimit limit) offset tid text =
      if after.heap.allocatedBytes ≤ limit then (.ok value, after.withLimit limit)
      else (.error (.heap (.limitExceeded limit)), memory.withLimit limit) := by
  obtain ⟨hparse, hstore⟩ := place_eq_ok_iff.mp h
  unfold place
  simp only [hparse, store_withLimit hlimit hroom hstore]
  split <;> rfl

end Literal

/-! ### Literals under a limit -/

namespace Load

variable {registry : NameRegistry} {types : TypeTable} {table : RegexTable}
  {before after : Memory} {limit : Nat}

theorem storeLiteral_growsTo {record : LiteralRecord}
    (h : storeLiteral registry types table before record = .ok after) :
    before.heap.GrowsTo after.heap := by
  obtain ⟨tid, value, -, hplace⟩ := storeLiteral_eq_ok_iff.mp h
  exact Literal.place_growsTo hplace

/-- A literal that is stored without a limit is stored under one, or the limit is reported at the
    offset of the literal. -/
theorem storeLiteral_withLimit {record : LiteralRecord} (hlimit : 0 < limit)
    (hroom : before.heap.allocatedBytes ≤ limit)
    (h : storeLiteral registry types table before record = .ok after) :
    storeLiteral registry types table (before.withLimit limit) record =
      if after.heap.allocatedBytes ≤ limit then .ok (after.withLimit limit)
      else .error (.literal record.start record.type (.heap (.limitExceeded limit))) := by
  obtain ⟨tid, value, hlookup, hplace⟩ := storeLiteral_eq_ok_iff.mp h
  rw [storeLiteral_of_lookup hlookup, Literal.place_withLimit hlimit hroom hplace]
  by_cases hfits : after.heap.allocatedBytes ≤ limit
  · rw [if_pos hfits, if_pos hfits]
  · rw [if_neg hfits, if_neg hfits]

end Load

/-! ### Loads -/

/-- The program under a limit of the heap. -/
def Program.withLimit (program : Program) (limit : Nat) : Program :=
  { program with memory := program.memory.withLimit limit }

/-- Computing a constant gives the same whatever the memory holds, and leaves it as it is. -/
structure Initializer.IgnoresMemory {σ : Type} (initializer : Initializer σ) : Prop where
  keeps : initializer.KeepsMemory
  same : ∀ request state memory other,
    (initializer.run request state memory).1 = (initializer.run request state other).1 ∧
      (initializer.run request state memory).2.1 = (initializer.run request state other).2.1

theorem Initializer.ignoresMemory_deferring : Initializer.deferring.IgnoresMemory :=
  ⟨keepsMemory_deferring, fun _ _ _ _ => ⟨rfl, rfl⟩⟩

theorem Initializer.ignoresMemory_absent : Initializer.absent.IgnoresMemory :=
  ⟨keepsMemory_absent, fun _ _ _ _ => ⟨rfl, rfl⟩⟩

namespace Load

variable {σ : Type} {patterns : PatternLanguage} {config : LoadConfig} {initializer : Initializer σ}
  {state : σ} {doc : Document} {program : Program} {limit : Nat}

/-- The limit is stored when the memory is made, and not looked at. -/
theorem memory_withLimit {size : Nat} {maskText : String} {made : Memory} (limit : Nat)
    (h : (memory config size maskText).outcome = .ok made) :
    (memory { config with maxHeapBytes := limit } size maskText).outcome =
      .ok (made.withLimit limit) := by
  obtain ⟨hsize, mask, hmask, hcheck, hcovered, rfl⟩ := memory_eq_ok_iff.mp h
  exact memory_eq_ok_iff.mpr ⟨hsize, mask, hmask, hcheck, hcovered, rfl⟩

/-- Up to the constants, a load under a limit is that of its literals. -/
theorem static_withLimit (run : Run patterns config doc program) (limit : Nat) :
    (static patterns { config with maxHeapBytes := limit } doc).outcome =
      (literals program.names program.types run.regexes (run.memory.withLimit limit)
        doc.literals).outcome.map fun memory => { program with memory } := by
  have hsources : (sources { config with maxHeapBytes := limit } doc.sources).outcome =
    .ok program.sources := run.sources_ok
  have htypes : (types { config with maxHeapBytes := limit } program.names doc.types).outcome =
    .ok run.declared := run.types_ok
  have hinvokes :
    (invokes { config with maxHeapBytes := limit } program.names doc.invokes).outcome =
      .ok program.invokes := run.invokes_ok
  unfold static
  simp only [Traced.outcome_bind, hsources, memory_withLimit limit run.memory_ok, run.names_ok,
    htypes, run.boxedTypes_ok, run.listFlavors_ok, run.mapFlavors_ok, hinvokes, run.regexes_ok,
    run.validators_ok, Except.ok_bind]
  cases (literals program.names program.types run.regexes (run.memory.withLimit limit)
    doc.literals).outcome <;> rfl

/-- The literals of a load take the bytes that their long strings need, at every step. -/
theorem allocatedBytes_of_literals (run : Run patterns config doc program)
    {records : List LiteralRecord}
    {memory : Memory}
    (h : records.foldlM (storeLiteral program.names program.types run.regexes) run.memory =
      .ok memory) :
    memory.heap.allocatedBytes = heapNeed records := by
  obtain ⟨-, mask, -, -, -, hmade⟩ := memory_eq_ok_iff.mp run.memory_ok
  have hempty : run.memory.heap.objects = #[] := by rw [hmade]; rfl
  have haccounted : run.memory.heap.IsAccounted := by rw [hmade]; rfl
  -- the bytes are those of the objects, and the objects are those of the long strings
  have hafter : memory.heap.IsAccounted :=
    Except.foldlM_keeps (P := fun memory => memory.heap.IsAccounted)
      (fun _ _ _ _ hmid hnext => hmid.growsTo (storeLiteral_growsTo hnext)) haccounted h
  have hrun := literalRun (names_typesNumbered run.names_ok)
    (holdsReserved_boxedTypes run.types_ok run.boxedTypes_ok) ((literals_outcome records).trans h)
  rw [hafter, hrun.objects, hempty]
  exact sum_footprint_stringObjects records

/-- The literals of a load are stored under a limit as without one, unless they need more; then
    the limit is reported at the first long string with which they do. -/
theorem literals_of_limit (run : Run patterns config doc program) (hlimit : 0 < limit) :
    (heapNeed doc.literals ≤ limit →
      (literals program.names program.types run.regexes (run.memory.withLimit limit)
        doc.literals).outcome = .ok (program.memory.withLimit limit)) ∧
      (limit < heapNeed doc.literals →
        ∃ before record rest, doc.literals = before ++ record :: rest ∧
          record.isLongString = true ∧ heapNeed before ≤ limit ∧
          limit < heapNeed (before ++ [record]) ∧
          (literals program.names program.types run.regexes (run.memory.withLimit limit)
            doc.literals).outcome =
            .error (.literal record.start record.type (.heap (.limitExceeded limit)))) := by
  have hfold := (literals_outcome doc.literals).symm.trans run.literals_ok
  have hnothing : run.memory.heap.allocatedBytes = heapNeed [] := allocatedBytes_of_literals run rfl
  obtain ⟨hall, hstop⟩ := Except.foldlM_of_limit
    (fun memory => memory.heap.allocatedBytes) (fun memory => memory.withLimit limit)
    (fun _ _ _ h => (storeLiteral_growsTo h).allocatedBytes_le)
    (fun _ _ _ hroom h => storeLiteral_withLimit hlimit hroom h)
    (hnothing.trans_le (Nat.zero_le limit)) hfold
  rw [allocatedBytes_of_literals run hfold] at hall hstop
  rw [literals_outcome]
  refine ⟨hall, fun hover => ?_⟩
  obtain ⟨before, record, rest, mid, next, hsplit, hbefore, hnext, hroom, hfull, herror⟩ :=
    hstop hover
  have hreached : (before ++ [record]).foldlM
      (storeLiteral program.names program.types run.regexes) run.memory = .ok next :=
    Except.foldlM_append_eq_ok.mpr ⟨mid, hbefore, Except.bind_eq_ok.mpr ⟨next, hnext, rfl⟩⟩
  rw [allocatedBytes_of_literals run hbefore] at hroom
  rw [allocatedBytes_of_literals run hreached] at hfull
  refine ⟨before, record, rest, hsplit, ?_, hroom, hfull, herror⟩
  -- any other literal would leave the sum as it is
  by_contra hshort
  rw [heapNeed_append, heapNeed_of_short hshort] at hfull
  exact absurd hroom (Nat.not_le_of_lt hfull)

theorem checkSlot_withLimit (memory : Memory) (request : ConstantRequest) :
    Constant.checkSlot (memory.withLimit limit) request = Constant.checkSlot memory request :=
  rfl

theorem run_withLimit (hignores : initializer.IgnoresMemory) (request : ConstantRequest)
    (state : σ) (memory : Memory) :
    Constant.run initializer request state (memory.withLimit limit) =
      ((Constant.run initializer request state memory).1,
        (Constant.run initializer request state memory).2.1,
        (Constant.run initializer request state memory).2.2.withLimit limit) := by
  obtain ⟨hresult, hnext⟩ := hignores.same request state (memory.withLimit limit) memory
  have hkept : (initializer.run request state (memory.withLimit limit)).2.2 =
      (initializer.run request state memory).2.2.withLimit limit := by
    rw [hignores.keeps, hignores.keeps]
  have hrun : initializer.run request state (memory.withLimit limit) =
      ((initializer.run request state memory).1, (initializer.run request state memory).2.1,
        (initializer.run request state memory).2.2.withLimit limit) :=
    Prod.ext hresult (Prod.ext hnext hkept)
  unfold Constant.run
  rw [hrun]
  rcases initializer.run request state memory with ⟨_ | _, next, after⟩ <;> rfl

/-- Constants that ignore the memory ignore its limit. -/
theorem constant_withLimit (hignores : initializer.IgnoresMemory) (program : Program) (state : σ)
    (record : ConstantRecord) :
    (constant initializer (program.withLimit limit) state record).outcome =
        (constant initializer program state record).outcome.map (·.withLimit limit) ∧
      (constant initializer (program.withLimit limit) state record).state =
        (constant initializer program state record).state := by
  unfold constant
  dsimp only [Program.withLimit]
  split
  · exact ⟨rfl, rfl⟩
  · simp only [checkSlot_withLimit, run_withLimit hignores]
    split
    · exact ⟨rfl, rfl⟩
    · split <;> exact ⟨rfl, rfl⟩

/-- Without constants that look at the memory, a load under a limit is decided by its literals:
    it goes on from them as the load without a limit does, or stops where they stop. -/
theorem load_withLimit_of_literals (state : σ)
    (hcode : doc.constants = [] ∨ initializer.IgnoresMemory)
    (run : Run patterns config doc program) (limit : Nat)
    (hliterals : (literals program.names program.types run.regexes (run.memory.withLimit limit)
      doc.literals).outcome = .ok (program.memory.withLimit limit)) :
    (load patterns { config with maxHeapBytes := limit } initializer state doc).outcome =
        (load patterns config initializer state doc).outcome.map (·.withLimit limit) ∧
      (load patterns { config with maxHeapBytes := limit } initializer state doc).state =
        (load patterns config initializer state doc).state := by
  have hstatic : (static patterns { config with maxHeapBytes := limit } doc).outcome =
      .ok (program.withLimit limit) := by
    rw [static_withLimit run, hliterals]
    rfl
  obtain ⟨limitedRun⟩ := static_eq_ok_iff.mp hstatic
  have hconstants :
      (constants initializer (program.withLimit limit) state doc.constants).outcome =
          (constants initializer program state doc.constants).outcome.map (·.withLimit limit) ∧
        (constants initializer (program.withLimit limit) state doc.constants).state =
          (constants initializer program state doc.constants).state := by
    rcases hcode with hnone | hignores
    · rw [hnone]
      exact ⟨rfl, rfl⟩
    · exact constants_map initializer state program (constant_withLimit hignores) doc.constants
  rw [load_state limitedRun, load_state run, load_outcome, load_outcome, hstatic,
    static_eq_ok_iff.mpr ⟨run⟩]
  exact hconstants

/-- The limit of the heap decides about a load by the bytes that its long strings need. A load
    without a limit allocates just these bytes. Under a limit it gives the same program, up to the
    limit, when they stay within the limit; otherwise it reports the limit at the first literal
    that goes over it. -/
theorem load_of_heapLimit (hcode : doc.constants = [] ∨ initializer.IgnoresMemory)
    (hload : (load patterns { config with maxHeapBytes := 0 } initializer state doc).outcome =
      .ok program) :
    program.memory.heap.allocatedBytes = heapNeed doc.literals ∧
      ∀ limit, 1 ≤ limit →
        let limited := load patterns { config with maxHeapBytes := limit } initializer state doc
        ((∃ other, limited.outcome = .ok other) ↔ heapNeed doc.literals ≤ limit) ∧
        (heapNeed doc.literals ≤ limit →
          limited.outcome = .ok (program.withLimit limit) ∧
            limited.state =
              (load patterns { config with maxHeapBytes := 0 } initializer state doc).state) ∧
        (limit < heapNeed doc.literals →
          ∃ before record rest, doc.literals = before ++ record :: rest ∧
            record.isLongString = true ∧ heapNeed before ≤ limit ∧
            limit < heapNeed (before ++ [record]) ∧
            limited.outcome =
              .error (.literal record.start record.type (.heap (.limitExceeded limit)))) := by
  have hruns : RunsNoCode initializer doc := hcode.imp_right Initializer.IgnoresMemory.keeps
  obtain ⟨run⟩ := static_eq_ok_iff.mp (static_of_load hload hruns)
  refine ⟨allocatedBytes_of_literals run
    ((literals_outcome doc.literals).symm.trans run.literals_ok), fun limit hlimit => ?_⟩
  obtain ⟨hall, hstop⟩ := literals_of_limit run hlimit
  have hsucceeds : heapNeed doc.literals ≤ limit →
      (load patterns { config with maxHeapBytes := limit } initializer state doc).outcome =
          .ok (program.withLimit limit) ∧
        (load patterns { config with maxHeapBytes := limit } initializer state doc).state =
          (load patterns { config with maxHeapBytes := 0 } initializer state doc).state := by
    intro hfits
    obtain ⟨houtcome, hstate⟩ :=
      load_withLimit_of_literals state hcode run limit (hall hfits)
    rw [hload] at houtcome
    exact ⟨houtcome, hstate⟩
  have hfails : limit < heapNeed doc.literals →
      ∃ before record rest, doc.literals = before ++ record :: rest ∧
        record.isLongString = true ∧ heapNeed before ≤ limit ∧
        limit < heapNeed (before ++ [record]) ∧
        (load patterns { config with maxHeapBytes := limit } initializer state doc).outcome =
          .error (.literal record.start record.type (.heap (.limitExceeded limit))) := by
    intro hover
    obtain ⟨before, record, rest, hsplit, hlong, hroom, hfull, herror⟩ := hstop hover
    refine ⟨before, record, rest, hsplit, hlong, hroom, hfull, ?_⟩
    rw [load_outcome]
    refine Eq.trans (congrArg (· >>= _) (static_withLimit run limit)) ?_
    rw [herror]
    rfl
  refine ⟨⟨?_, fun hfits => ⟨_, (hsucceeds hfits).1⟩⟩, hsucceeds, hfails⟩
  rintro ⟨other, hother⟩
  by_contra hover
  obtain ⟨_, _, _, -, -, -, -, herror⟩ := hfails (Nat.lt_of_not_le hover)
  rw [herror] at hother
  cases hother

/-- The two long strings of the document take a buffer of 32 bytes each. A limit of 80 bytes is
    enough for them; one of 79 bytes is reported at the second. -/
theorem load_of_heapLimit_of_mixedLiterals :
    ∃ program, (load .basic .standard .absent () mixedLiterals).outcome = .ok program ∧
      program.memory.heap.allocatedBytes = 80 ∧
      (load .basic { LoadConfig.standard with maxHeapBytes := 80 } .absent ()
        mixedLiterals).outcome =
        .ok (program.withLimit 80) ∧
      (load .basic { LoadConfig.standard with maxHeapBytes := 79 } .absent ()
        mixedLiterals).outcome =
        .error (.literal 0 "String" (.heap (.limitExceeded 79))) := by
  have hok : (load .basic .standard .absent () mixedLiterals).outcome.isOk = true := by
    decide +kernel
  obtain ⟨program, hload⟩ := Except.exists_of_isOk hok
  have hneed : heapNeed mixedLiterals.literals = 80 := by decide
  have hunlimited : (load .basic { LoadConfig.standard with maxHeapBytes := 0 } .absent ()
      mixedLiterals).outcome = .ok program := hload
  obtain ⟨hbytes, hlimits⟩ := load_of_heapLimit (.inl rfl) hunlimited
  obtain ⟨-, hsucceeds, -⟩ := hlimits 80 (by decide)
  obtain ⟨-, -, hfails⟩ := hlimits 79 (by decide)
  obtain ⟨before, record, rest, hsplit, -, hroom, hfull, herror⟩ :=
    hfails (by rw [hneed]; decide)
  refine ⟨program, hload, hbytes.trans hneed, (hsucceeds (Nat.le_of_eq hneed)).1, ?_⟩
  rcases before with _ | ⟨first, _ | ⟨second, more⟩⟩
  · cases hsplit
    exact absurd hfull (by decide)
  · cases hsplit
    exact herror
  · have hstart : mixedLiterals.literals.take 2 = [first, second] := congrArg (List.take 2) hsplit
    have htwo : heapNeed (mixedLiterals.literals.take 2) = 80 := by decide
    have hmore : heapNeed (first :: second :: more) =
        heapNeed [first, second] + heapNeed more := heapNeed_append [first, second] more
    rw [hmore, ← hstart, htwo] at hroom
    omega

end Load

end ProgramImage
