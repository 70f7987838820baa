import ProgramImage.Pattern.Language
import ProgramImage.Proofs.FlavorRun
import ProgramImage.Proofs.HeapMasks
import ProgramImage.Proofs.Settings

/-!
# Errors of a load

A load stops at the first error, and every error tells of the document or of the settings. No
document makes a load report what would be a fault of the loader itself: a declaration outside
its table, an object that cannot be allocated although there is room, or a string that fits a
buffer whose type is missing.

## Main definitions

* `FailsWith` says that a computation has errors of some kind only.
* `LoadError.IsUnresolved` is an error of resolving a declaration, `LiteralError.IsForeseen` one of
  storing a literal, and `LoadError.IsForeseen` one of a load.

## Main statements

* `Load.fill_fails` and `Load.literals_fails` are the errors of a table and of the literals.
* `Load.load_fails` says that a load has no other errors than foreseen ones.
-/

namespace ProgramImage

/-- The errors of a computation are of some kind. -/
def FailsWith {ε α : Type} (P : ε → Prop) (x : Except ε α) : Prop :=
  ∀ error, x = .error error → P error

namespace FailsWith

variable {ε δ α β σ : Type} {P : ε → Prop}

theorem ok (a : α) : FailsWith P (.ok a) :=
  nofun

theorem pure (a : α) : FailsWith P (Pure.pure a : Except ε α) :=
  nofun

theorem error {e : ε} (h : P e) : FailsWith P (.error e : Except ε α) := by
  rintro _ ⟨⟩
  exact h

theorem mono {Q : ε → Prop} {x : Except ε α} (hx : FailsWith P x) (h : ∀ e, P e → Q e) :
    FailsWith Q x :=
  fun e he => h e (hx e he)

theorem bind {x : Except ε α} {f : α → Except ε β} (hx : FailsWith P x)
    (hf : ∀ a, x = .ok a → FailsWith P (f a)) : FailsWith P (x >>= f) := by
  cases x with
  | error e => exact error (hx e rfl)
  | ok a => exact hf a rfl

theorem map {x : Except ε α} (hx : FailsWith P x) (f : α → β) : FailsWith P (x.map f) := by
  cases x with
  | error e => exact error (hx e rfl)
  | ok a => exact ok _

theorem mapError {Q : δ → Prop} {x : Except ε α} {f : ε → δ} (hx : FailsWith P x)
    (h : ∀ e, P e → Q (f e)) : FailsWith Q (x.mapError f) := by
  cases x with
  | error e => exact error (h e (hx e rfl))
  | ok a => exact ok a

theorem ite {c : Prop} [Decidable c] {x y : Except ε α} (hx : c → FailsWith P x)
    (hy : ¬c → FailsWith P y) : FailsWith P (if c then x else y) := by
  split
  · next h => exact hx h
  · next h => exact hy h

theorem mapM {f : α → Except ε β} {xs : List α} (hf : ∀ x ∈ xs, FailsWith P (f x)) :
    FailsWith P (xs.mapM f) := by
  induction xs with
  | nil => exact ok _
  | cons x xs ih =>
    rw [List.mapM_cons]
    refine (hf x List.mem_cons_self).bind fun _ _ => ?_
    exact (ih fun y hy => hf y (List.mem_cons_of_mem x hy)).bind fun _ _ => pure _

theorem optionMapM {f : α → Except ε β} {x : Option α} (hf : ∀ a ∈ x, FailsWith P (f a)) :
    FailsWith P (x.mapM f) := by
  cases x with
  | none => exact ok _
  | some a => exact (hf a rfl).map some

/-- A fold fails as its steps do, in the states that it goes through. -/
theorem foldlM {f : σ → α → Except ε σ} {I : σ → Prop} {xs : List α} {s : σ}
    (hf : ∀ s x, x ∈ xs → I s → FailsWith P (f s x))
    (hkeep : ∀ s x s', x ∈ xs → I s → f s x = .ok s' → I s') (hs : I s) :
    FailsWith P (xs.foldlM f s) := by
  induction xs generalizing s with
  | nil => exact ok _
  | cons x xs ih =>
    rw [List.foldlM_cons]
    refine (hf s x List.mem_cons_self hs).bind fun mid hmid => ?_
    exact ih (fun s y hy => hf s y (List.mem_cons_of_mem x hy))
      (fun s y s' hy => hkeep s y s' (List.mem_cons_of_mem x hy))
      (hkeep s x mid List.mem_cons_self hs hmid)

end FailsWith

/-! ### Declarations -/

/-- A declaration is wrong in itself, or refers to what there is not. -/
def LoadError.IsUnresolved : LoadError → Prop
  | unknownName .. | missingDescriptor .. | wrongKind .. | invalidDeclaration .. | invalidMask ..
  | maskCoverage .. => True
  | _ => False

namespace Load

variable {registry : NameRegistry} {types : TypeTable} {context : String}

theorem resolve_fails (space : Namespace) (name context : String) :
    FailsWith LoadError.IsUnresolved (resolve registry space name context) := by
  unfold resolve
  cases registry.lookup space name with
  | none => exact .error trivial
  | some index => exact .ok index

theorem loadedType_fails (name context : String) :
    FailsWith LoadError.IsUnresolved (loadedType registry types name context) := by
  unfold loadedType
  refine (resolve_fails _ _ _).bind fun tid _ => ?_
  cases types.type? tid with
  | none => exact .error trivial
  | some desc => exact .ok desc

theorem parseMask_fails (text context : String) :
    FailsWith LoadError.IsUnresolved (parseMask text context) := by
  unfold parseMask
  cases Mask.parse text with
  | error e => exact .error trivial
  | ok mask => exact .ok mask

theorem checkCoverage_fails (verify : Bool) (context : String) (mask : Mask)
    (expected : Coverage) :
    FailsWith LoadError.IsUnresolved (checkCoverage verify context mask expected) :=
  .ite (fun _ => .error trivial) fun _ => .ok ()

theorem sizeInfo_fails (verify : Bool) (context : String) (record : SizeRecord) :
    FailsWith LoadError.IsUnresolved (sizeInfo verify context record) := by
  unfold sizeInfo
  refine (parseMask_fails _ _).bind fun inlineMask _ => ?_
  refine (FailsWith.optionMapM fun text _ => parseMask_fails text context).bind fun heapMask _ => ?_
  refine (checkCoverage_fails _ _ _ _).bind fun _ _ => ?_
  cases heapMask with
  | none => exact .pure _
  | some mask => exact (checkCoverage_fails _ _ _ _).bind fun _ _ => .pure _

theorem fieldLayout_fails (key : String) (fields : List String) (offsets : List UInt64) :
    FailsWith LoadError.IsUnresolved (fieldLayout registry key fields offsets) := by
  unfold fieldLayout
  refine .ite (fun _ => .error trivial) fun _ => ?_
  exact (FailsWith.mapM fun name _ => resolve_fails _ name key).bind fun _ _ => .pure _

theorem typeKind_fails (key : String) (record : TypeKindRecord) :
    FailsWith LoadError.IsUnresolved (typeKind registry key record) := by
  cases record with
  | register | bigNum => exact .pure _
  | struct fields offsets | ref fields offsets =>
    exact (fieldLayout_fails _ _ _).bind fun _ _ => .pure _
  | partialVector entry capacity =>
    simp only [typeKind]
    refine .ite (fun _ => .error trivial) fun _ => ?_
    exact (resolve_fails _ _ _).bind fun _ _ => .pure _
  | listTree entry => exact (resolve_fails _ _ _).bind fun _ _ => .pure _
  | mapTree keyName value =>
    exact (resolve_fails _ _ _).bind fun _ _ => (resolve_fails _ _ _).bind fun _ _ => .pure _
  | union form members =>
    exact (FailsWith.mapM fun name _ => resolve_fails _ name key).bind fun _ _ => .pure _

theorem typeDescriptor_fails (verify : Bool) (record : TypeRecord) :
    FailsWith LoadError.IsUnresolved (typeDescriptor registry verify record) := by
  unfold typeDescriptor
  refine (resolve_fails _ _ _).bind fun tid _ => ?_
  refine (sizeInfo_fails _ _ _).bind fun size _ => ?_
  exact (typeKind_fails _ _).bind fun _ _ => .pure _

theorem boxedType_fails (record : BoxedRecord) :
    FailsWith LoadError.IsUnresolved (boxedType registry types record) := by
  unfold boxedType
  refine (resolve_fails _ _ _).bind fun tid _ => (loadedType_fails _ _).bind fun wrapped _ => ?_
  split
  · exact .pure _
  · exact .error trivial

theorem chunk_fails (name : String) (capacity : Nat) (context : String) :
    FailsWith LoadError.IsUnresolved (chunk registry types name capacity context) := by
  unfold chunk
  refine (loadedType_fails _ _).bind fun desc _ => ?_
  split
  · exact .ite (fun _ => .pure _) fun _ => .error trivial
  · exact .error trivial

theorem listFlavor_fails (record : ListFlavorRecord) :
    FailsWith LoadError.IsUnresolved (listFlavor registry types record) := by
  unfold listFlavor
  refine (resolve_fails _ _ _).bind fun list _ => (resolve_fails _ _ _).bind fun repr _ => ?_
  refine (loadedType_fails _ _).bind fun entry _ => (chunk_fails _ _ _).bind fun vector4 _ => ?_
  refine (chunk_fails _ _ _).bind fun vector8 _ => (loadedType_fails _ _).bind fun tree _ => ?_
  split
  · exact .pure _
  · exact .error trivial

theorem mapFlavor_fails (record : MapFlavorRecord) :
    FailsWith LoadError.IsUnresolved (mapFlavor registry types record) := by
  unfold mapFlavor
  refine (resolve_fails _ _ _).bind fun map _ => (resolve_fails _ _ _).bind fun repr _ => ?_
  refine (loadedType_fails _ _).bind fun key _ => (loadedType_fails _ _).bind fun value _ => ?_
  refine (loadedType_fails _ _).bind fun tuple _ => (loadedType_fails _ _).bind fun tree _ => ?_
  split
  · exact .pure _
  · exact .error trivial

theorem field_fails (record : FieldRecord) :
    FailsWith LoadError.IsUnresolved (field registry record) :=
  (resolve_fails _ _ _).bind fun _ _ => (resolve_fails _ _ _).bind fun _ _ => .pure _

theorem primitive_fails (context : String) (record : PrimitiveRecord) :
    FailsWith LoadError.IsUnresolved (primitive registry context record) := by
  unfold primitive
  refine (FailsWith.optionMapM fun name _ => resolve_fails _ name context).bind fun _ _ => ?_
  refine (FailsWith.mapM fun binding _ => ?_).bind fun _ _ => ?_
  · exact (resolve_fails _ _ _).bind fun _ _ => .pure _
  · refine (FailsWith.mapM fun lambda _ => ?_).bind fun _ _ => .pure _
    exact (resolve_fails _ _ _).bind fun _ _ => .pure _

theorem body_fails (verify : Bool) (context : String) (record : BodyRecord) :
    FailsWith LoadError.IsUnresolved (body verify context record) :=
  (parseMask_fails _ _).bind fun _ _ => (checkCoverage_fails _ _ _ _).bind fun _ _ => .pure _

theorem invoke_fails (verify : Bool) (record : InvokeRecord) :
    FailsWith LoadError.IsUnresolved (invoke registry verify record) := by
  unfold invoke
  refine (resolve_fails _ _ _).bind fun id _ => ?_
  refine (FailsWith.mapM fun param _ => ?_).bind fun params _ => ?_
  · exact (resolve_fails _ _ _).bind fun _ _ => .pure _
  · refine (resolve_fails _ _ _).bind fun result _ => ?_
    cases record.kind with
    | body source => exact ((body_fails _ _ _).map _).bind fun _ _ => .pure _
    | primitive source => exact ((primitive_fails _ _).map _).bind fun _ _ => .pure _

end Load

/-! ### Foreseen errors -/

/-- A literal cannot be stored for a reason that lies in its text, in the settings or in the size
    of the buffer. `content` is the text without its first and last character. -/
def LiteralError.IsForeseen (content : List UInt8) : LiteralError → Prop
  | missingRepr _ => False
  | heap error => ∃ limit, error = .limitExceeded limit
  | stringTooLong length max =>
    length = content.length ∧ max = maxBufferString ∧ maxBufferString < length
  | _ => True

/-- A load may stop with an error. A place that is declared is in its table, and may be taken. The
    heap is asked to register the roots, whose mask is compared with the buffer before when masks
    are verified. An error of a literal is one of a literal of the document. -/
def LoadError.IsForeseen (config : LoadConfig) (doc : Document) : LoadError → Prop
  | table error => ∃ label place, error = .duplicate label place
  | heap error => config.verifyMasks = false ∧
    ∃ covered size, error = .root (.maskExceedsRegion covered size)
  | literal offset type error => ∃ record ∈ doc.literals, record.start = offset ∧
    record.type = type ∧ error.IsForeseen record.content
  | _ => True

theorem FailsWith.foreseen {α : Type} {config : LoadConfig} {doc : Document}
    {x : Except LoadError α} (h : FailsWith LoadError.IsUnresolved x) :
    FailsWith (LoadError.IsForeseen config doc) x := by
  refine h.mono fun error herror => ?_
  cases error <;> trivial

/-! ### Tables -/

theorem SlotTable.insert_fails {α : Type} [Declared α] {table : SlotTable α} {item : α}
    (h : Declared.place item < table.size) :
    FailsWith (fun error => ∃ label place, error = .duplicate label place)
      (table.insert item) := by
  rcases table.insert_cases item with ⟨hle, -⟩ | ⟨-, hduplicate⟩ | ⟨-, -, later, hlater⟩
  · exact absurd h (Nat.not_lt_of_le hle)
  · rw [hduplicate]
    exact .error ⟨_, _, rfl⟩
  · rw [hlater]
    exact .ok later

theorem TypeTable.le_size_reserved (size : Nat) : size ≤ (reserved size).size := by
  rw [size_reserved]
  exact Nat.le_max_left _ _

namespace Load

variable {config : LoadConfig} {registry : NameRegistry} {doc : Document}

/-- A table whose declarations have their places in it is filled, unless one of them cannot be
    resolved or two have one place. -/
theorem fill_fails {ρ α : Type} [Declared α] {make : SlotTable α → ρ → Traced α}
    {table : SlotTable α} {records : List ρ}
    (hmake : ∀ mid record, FailsWith LoadError.IsUnresolved (make mid record).outcome)
    (hplace : ∀ mid record item, (make mid record).outcome = .ok item →
      Declared.place item < table.size) :
    FailsWith (LoadError.IsForeseen config doc) (fill make table records).outcome := by
  unfold fill
  rw [Traced.outcome_foldlM]
  -- no declaration changes the size of the table
  refine FailsWith.foldlM (I := fun mid => mid.size = table.size) ?_ ?_ rfl
  · intro mid record _ hsize
    rw [Traced.outcome_bind]
    refine (hmake mid record).foreseen.bind fun item hitem => ?_
    rw [Traced.outcome_lift]
    exact (SlotTable.insert_fails (hsize ▸ hplace mid record item hitem)).mapError fun _ => id
  · intro mid record next _ hsize hnext
    obtain ⟨item, -, hinsert⟩ := fill_step_eq_ok.mp hnext
    rw [(SlotTable.insert_eq_ok hinsert).2.2.1, hsize]

theorem internTypes_fails (names : NameRegistry) (list : List String) :
    FailsWith (LoadError.IsForeseen config doc) (internTypes names list).outcome := by
  unfold internTypes
  rw [Traced.outcome_foldlM]
  refine FailsWith.foldlM (I := fun _ => True) ?_ (fun _ _ _ _ _ _ => trivial) trivial
  intro mid name _ _
  rw [Traced.outcome_bind, Traced.outcome_lift]
  refine FailsWith.bind (FailsWith.mapError (P := fun _ => True) ?_ ?_) fun _ _ => .ok _
  · exact fun _ _ => trivial
  · exact fun _ _ => trivial

theorem pushNames_fails {P : LoadError → Prop} (space : Namespace) (names : NameRegistry)
    (list : List String) : FailsWith P (pushNames space names list).outcome := by
  rw [pushNames_eq_ok_iff.mpr rfl]
  exact .ok _

theorem names_fails (doc : Document) :
    FailsWith (LoadError.IsForeseen config doc) (names doc).outcome := by
  unfold names
  simp only [Traced.outcome_bind]
  refine FailsWith.bind (.ok _) fun _ _ => (internTypes_fails _ _).bind fun typed _ => ?_
  refine (pushNames_fails _ _ _).bind fun _ _ => (pushNames_fails _ _ _).bind fun fielded _ => ?_
  refine (fill_fails ?_ ?_).bind fun _ _ => ?_
  · intro _ record
    rw [Traced.outcome_lift_id]
    exact field_fails record
  · intro _ record desc hdesc
    rw [Traced.outcome_lift_id] at hdesc
    rw [SlotTable.size_empty]
    exact NameRegistry.Numbers.lt_count ⟨_, (field_refers hdesc).1⟩
  · refine (pushNames_fails _ _ _).bind fun _ _ => ?_
    exact (pushNames_fails _ _ _).bind fun _ _ => .ok _

theorem types_fails (records : List TypeRecord) :
    FailsWith (LoadError.IsForeseen config doc) (types config registry records).outcome := by
  unfold types
  rw [Traced.outcome_bind]
  refine FailsWith.bind (.ok _) fun _ _ => fill_fails ?_ ?_
  · intro _ record
    rw [Traced.outcome_bind, Traced.outcome_lift_id]
    exact (typeDescriptor_fails _ record).bind fun _ _ => .ok _
  · intro _ record desc hdesc
    rw [Traced.outcome_bind, Traced.outcome_lift_id] at hdesc
    obtain ⟨found, hfound, hpure⟩ := Except.bind_eq_ok.mp hdesc
    cases hpure
    have hlt := NameRegistry.Numbers.lt_count ⟨_, (typeDescriptor_eq_ok hfound).1⟩
    exact Nat.lt_of_lt_of_le hlt (TypeTable.le_size_reserved _)

theorem boxedTypes_fails {declared : TypeTable} {typeRecords : List TypeRecord}
    (htypes : (types config registry typeRecords).outcome = .ok declared)
    (records : List BoxedRecord) :
    FailsWith (LoadError.IsForeseen config doc) (boxedTypes registry declared records).outcome := by
  have hsize := (types_eq_ok_iff.mp htypes).size_eq
  unfold boxedTypes
  rw [Traced.outcome_bind]
  refine FailsWith.bind (.ok _) fun _ _ => fill_fails ?_ ?_
  · intro mid record
    rw [Traced.outcome_lift_id]
    exact boxedType_fails record
  · intro mid record desc hdesc
    rw [Traced.outcome_lift_id] at hdesc
    obtain ⟨tid, -, -, -, htid, -, -, -, rfl⟩ := boxedType_eq_ok_iff.mp hdesc
    have hlt := NameRegistry.Numbers.lt_count ⟨_, htid⟩
    rw [hsize]
    exact Nat.lt_of_lt_of_le hlt (TypeTable.le_size_reserved _)

theorem invokes_fails (records : List InvokeRecord) :
    FailsWith (LoadError.IsForeseen config doc) (invokes config registry records).outcome := by
  unfold invokes
  rw [Traced.outcome_bind]
  refine FailsWith.bind (.ok _) fun _ _ => fill_fails ?_ ?_
  · intro _ record
    rw [Traced.outcome_lift_id]
    exact invoke_fails _ record
  · intro _ record found hfound
    rw [Traced.outcome_lift_id] at hfound
    rw [SlotTable.size_empty]
    exact NameRegistry.Numbers.lt_count ⟨_, (invoke_refers hfound).1⟩

end Load

/-! ### Literals -/

/-- A string that a buffer has room for is given a slot, unless the heap is at its limit. -/
theorem stringBuffer_of_length_le {types : TypeTable} (htypes : types.HoldsReserved)
    {length : Nat} (hlength : length ≤ maxBufferString) :
    ∃ tid capacity desc, stringBufferFor? length = some (tid, capacity) ∧
      types.type? tid = some desc ∧ desc.tid = tid ∧ desc.tid ≠ .none ∧
      desc.hasHeapForm = true ∧ desc.size.heapSize = capacity ∧ length ≤ capacity := by
  obtain ⟨⟨tid, capacity⟩, hbuffer⟩ :=
    Option.isSome_iff_exists.mp (isSome_stringBufferFor?_iff.mpr hlength)
  obtain ⟨hmem, hroom, -⟩ := isSmallestBuffer_of_stringBufferFor? hbuffer
  obtain ⟨desc, hdesc, htid, hsize⟩ := reserved_stringBuffer hmem
  -- every buffer type is laid out as a reference and has a number of its own
  have hform : ∀ buffer ∈ Reserved.stringBuffers, ∀ desc ∈ reservedDescriptors[buffer.1.value]?,
      desc.tid ≠ .none ∧ desc.hasHeapForm = true := by decide
  obtain ⟨hnone, hheap⟩ := hform (tid, capacity) hmem desc hdesc
  exact ⟨tid, capacity, desc, hbuffer, htypes tid desc hdesc, htid, hnone, hheap, hsize, hroom⟩

namespace Literal

variable {types : TypeTable} {regexes : RegexTable}

theorem number_fails {α : Type} {content : List UInt8} (kind : NumericKind) (text : String)
    (read : List Char → Option α) :
    FailsWith (LiteralError.IsForeseen content) (number kind text read) := by
  unfold number
  cases read text.toList.dropLast with
  | none => exact .error trivial
  | some value => exact .ok value

theorem parseString_fails (text : String) :
    FailsWith (LiteralError.IsForeseen (Utf8.encode text.toList.tail.dropLast))
      (parseString text) := by
  unfold parseString
  cases hbody : unquote? text.toList with
  | none => exact .error trivial
  | some body =>
    refine .ite (fun hlong => .error ?_) fun _ => .ok _
    rw [unquote?_eq_some hbody, List.tail_cons, List.dropLast_concat]
    exact ⟨rfl, rfl, hlong⟩

/-- The text of a literal is read, or something is wrong with the text. -/
theorem parse_fails (regexes : RegexTable) (tid : TypeId) (text : String) :
    FailsWith (LiteralError.IsForeseen (Utf8.encode text.toList.tail.dropLast))
      (parse regexes tid text) := by
  unfold parse
  refine .ite (fun _ => .ok _) fun _ => .ite (fun _ => .ok _) fun _ => ?_
  refine .ite (fun _ => (number_fails _ _ _).map _) fun _ => ?_
  refine .ite (fun _ => (number_fails _ _ _).map _) fun _ => ?_
  refine .ite (fun _ => (number_fails _ _ _).map _) fun _ => ?_
  refine .ite (fun _ => (number_fails _ _ _).map _) fun _ => ?_
  refine .ite (fun _ => (number_fails _ _ _).map _) fun _ => ?_
  refine .ite (fun _ => (number_fails _ _ _).map _) fun _ => ?_
  refine .ite (fun _ => .error trivial) fun _ => .ite (fun _ => parseString_fails text) fun _ => ?_
  refine .ite (fun _ => ?_) fun _ => .error trivial
  cases regexes.lookup text with
  | none => exact .error trivial
  | some id => exact .ok _

theorem stringSlot_fails (htypes : types.HoldsReserved) {content : List UInt8}
    (hlength : content.length ≤ maxBufferString) (heap : Heap) :
    FailsWith (fun error => ∃ limit, error = .heap (.limitExceeded limit))
      (stringSlot types heap content) := by
  obtain ⟨tid, capacity, desc, hbuffer, hdesc, -, hnone, hform, hsize, hroom⟩ :=
    stringBuffer_of_length_le htypes hlength
  unfold stringSlot
  refine .ite (fun _ => .ok _) fun _ => ?_
  cases StringSlot.ofShort? content with
  | some slot => exact .ok _
  | none =>
    simp only [hbuffer, hdesc]
    cases hallocate : heap.allocate desc content with
    | ok granted => exact .ok _
    | error error =>
      refine .error ?_
      -- of the four reasons to refuse an object the limit is the only one left
      rw [Heap.allocate_eq_error_iff] at hallocate
      simp only [Heap.refusal?, Heap.refusals, hform, hsize, Nat.not_lt_of_le hroom] at hallocate
      simp [hnone] at hallocate
      exact ⟨heap.limit, by rw [hallocate.2]⟩

/-- A value that was read is encoded, unless the heap is at its limit. -/
theorem encode_fails (htypes : types.HoldsReserved) {tid : TypeId} {text : String}
    {value : Literal} (hvalue : Denotes regexes text tid value) (heap : Heap) :
    FailsWith (fun error => ∃ limit, error = .heap (.limitExceeded limit))
      (value.encode types heap) := by
  cases hvalue with
  | string _ hlength => exact (stringSlot_fails htypes (by rwa [String.toList_ofList]) heap).map _
  | _ => exact .ok _

/-- A value that was read is stored, unless the heap is at its limit or the buffer does not reach
    as far. -/
theorem store_fails (htypes : types.HoldsReserved) {tid : TypeId} {text : String}
    {value : Literal} (hvalue : Denotes regexes text tid value) (memory : Memory) (offset : Nat)
    (content : List UInt8) :
    FailsWith (LiteralError.IsForeseen content) (value.store types memory offset).1 := by
  have hencode : FailsWith (LiteralError.IsForeseen content)
      (value.encode types memory.heap) := by
    refine (encode_fails htypes hvalue memory.heap).mono ?_
    rintro _ ⟨limit, rfl⟩
    exact ⟨limit, rfl⟩
  by_cases hunit : value = .unit
  · subst hunit
    exact .ok _
  · rw [store_of_ne_unit hunit]
    cases hbytes : value.encode types memory.heap with
    | error error => exact .error (hencode error hbytes)
    | ok encoded => exact FailsWith.mapError (P := fun _ => True) (fun _ _ => trivial) fun _ => id

theorem place_fails (htypes : types.HoldsReserved) (memory : Memory) (offset : Nat)
    (tid : TypeId) (text : String) :
    FailsWith (LiteralError.IsForeseen (Utf8.encode text.toList.tail.dropLast))
      (place types regexes memory offset tid text).1 := by
  unfold place
  cases hparse : parse regexes tid text with
  | error error => exact .error (parse_fails regexes tid text error hparse)
  | ok value => exact (store_fails htypes (denotes_of_parse hparse) _ _ _).map _

end Literal

namespace Load

variable {σ : Type} {patterns : PatternLanguage} {config : LoadConfig} {registry : NameRegistry}
  {types : TypeTable} {doc : Document}

/-- A literal of the document is stored, unless its error is reported. -/
theorem literals_fails (htypes : types.HoldsReserved) (table : RegexTable) (memory : Memory) :
    FailsWith (LoadError.IsForeseen config doc)
      (literals registry types table memory doc.literals).outcome := by
  rw [literals_outcome]
  refine FailsWith.foldlM (I := fun _ => True) ?_ (fun _ _ _ _ _ _ => trivial) trivial
  intro mid record hrecord _
  unfold storeLiteral
  refine (resolve_fails _ _ _).foreseen.bind fun tid _ => ?_
  have hplace : FailsWith (LiteralError.IsForeseen record.content)
      (Literal.place types table mid record.start tid record.text).1 :=
    Literal.place_fails htypes _ _ _ _
  generalize Literal.place types table mid record.start tid record.text = placed at hplace ⊢
  obtain ⟨result, later⟩ := placed
  cases result with
  | ok value => exact .ok _
  | error error => exact .error ⟨record, hrecord, rfl, rfl, hplace error rfl⟩

/-! ### Loads -/

/-- The memory is made, unless the buffer is too large or its mask is wrong. -/
theorem memory_fails (size : Nat) (maskText : String) :
    FailsWith (LoadError.IsForeseen config doc) (memory config size maskText).outcome := by
  unfold memory
  rw [Traced.outcome_bind]
  refine FailsWith.bind (.ok _) fun _ _ => ?_
  split
  · exact .error trivial
  · simp only [Traced.outcome_bind, Traced.outcome_lift_id]
    refine (parseMask_fails _ _).foreseen.bind fun mask _ => ?_
    refine (checkCoverage_fails _ _ _ _).foreseen.bind fun _ hcheck => ?_
    rw [Traced.outcome_lift]
    refine FailsWith.bind (FailsWith.mapError
      (P := fun error => config.verifyMasks = false ∧
        ∃ covered size, error = .root (.maskExceedsRegion covered size)) ?_ fun _ => id)
      fun _ _ => .ok _
    unfold Heap.registerRoots RootSet.register
    by_cases hcovered : mask.covered > size
    · -- a verified mask would have been refused before
      have hverify : config.verifyMasks = false := by
        by_contra hverified
        rw [Bool.not_eq_false] at hverified
        rw [hverified, checkCoverage_eq_ok] at hcheck
        exact Nat.not_lt_of_le (of_decide_eq_true hcheck) hcovered
      simp only [Heap.empty, RootSet.empty, Option.isSome_none, Bool.false_eq_true, if_false,
        if_pos hcovered]
      exact .error ⟨hverify, _, _, rfl⟩
    · simp only [Heap.empty, RootSet.empty, Option.isSome_none, Bool.false_eq_true, if_false,
        if_neg hcovered]
      exact .ok _

theorem listFlavors_fails (flavors : Flavors) (records : List ListFlavorRecord) :
    FailsWith (LoadError.IsForeseen config doc)
      (listFlavors registry types flavors records).outcome := by
  rw [listFlavors_outcome]
  refine FailsWith.foldlM (I := fun _ => True) ?_ (fun _ _ _ _ _ _ => trivial) trivial
  intro mid record _ _
  refine (listFlavor_fails record).foreseen.bind fun flavor _ => ?_
  exact FailsWith.mapError (P := fun _ => True) (fun _ _ => trivial) fun _ => id

theorem mapFlavors_fails (flavors : Flavors) (records : List MapFlavorRecord) :
    FailsWith (LoadError.IsForeseen config doc)
      (mapFlavors registry types flavors records).outcome := by
  rw [mapFlavors_outcome]
  refine FailsWith.foldlM (I := fun _ => True) ?_ (fun _ _ _ _ _ _ => trivial) trivial
  intro mid record _ _
  refine (mapFlavor_fails record).foreseen.bind fun flavor _ => ?_
  exact FailsWith.mapError (P := fun _ => True) (fun _ _ => trivial) fun _ => id

theorem regexes_fails (records : List RegexRecord) :
    FailsWith (LoadError.IsForeseen config doc) (regexes patterns records).outcome := by
  rw [regexes_outcome]
  refine FailsWith.foldlM (I := fun _ => True) ?_ (fun _ _ _ _ _ _ => trivial) trivial
  intro mid record _ _
  refine FailsWith.bind (FailsWith.mapError (P := fun _ => True) ?_ ?_) fun _ _ => .pure _
  · exact fun _ _ => trivial
  · exact fun _ _ => trivial

theorem validators_fails (table : RegexTable) (records : List ValidatorRecord) :
    FailsWith (LoadError.IsForeseen config doc)
      (validators patterns registry table records).outcome := by
  rw [validators_outcome]
  refine FailsWith.foldlM (I := fun _ => True) ?_ (fun _ _ _ _ _ _ => trivial) trivial
  intro mid record _ _
  refine (resolve_fails _ _ _).foreseen.bind fun tid _ => ?_
  refine FailsWith.bind (FailsWith.mapError (P := fun _ => True) ?_ ?_) fun _ _ => .pure _
  · exact fun _ _ => trivial
  · exact fun _ _ => trivial

theorem static_fails (patterns : PatternLanguage) (config : LoadConfig) (doc : Document) :
    FailsWith (LoadError.IsForeseen config doc) (static patterns config doc).outcome := by
  unfold static
  simp only [Traced.outcome_bind]
  refine FailsWith.bind (by rw [sources_outcome]; exact .ok _) fun sources _ => ?_
  refine (memory_fails _ _).bind fun memory _ => (names_fails doc).bind fun named _ => ?_
  refine (types_fails _).bind fun declared htypes => ?_
  refine (boxedTypes_fails htypes _).bind fun types hboxed => ?_
  refine (listFlavors_fails _ _).bind fun lists _ => (mapFlavors_fails _ _).bind fun maps _ => ?_
  refine (invokes_fails _).bind fun invokes _ => (regexes_fails _).bind fun regexes _ => ?_
  refine (literals_fails (holdsReserved_boxedTypes htypes hboxed) _ _).bind fun memory _ => ?_
  exact (validators_fails _ _).bind fun validated _ => .ok _

theorem constant_fails (initializer : Initializer σ) (program : Program) (state : σ)
    (record : ConstantRecord) :
    FailsWith (LoadError.IsForeseen config doc)
      (constant initializer program state record).outcome := by
  unfold constant
  dsimp only
  split
  · next error hresolved =>
    refine .error ?_
    refine FailsWith.bind (P := LoadError.IsForeseen config doc) (resolve_fails _ _ _).foreseen
      (fun id _ => (resolve_fails _ _ _).foreseen.bind fun tid _ => ?_) error hresolved
    split
    · exact .ok _
    · exact .error trivial
  · split
    · exact .error trivial
    · split
      · exact .ok _
      · exact .error trivial

theorem constants_fails (initializer : Initializer σ) (program : Program) (state : σ)
    (records : List ConstantRecord) :
    FailsWith (LoadError.IsForeseen config doc)
      (constants initializer program state records).outcome := by
  induction records generalizing program state with
  | nil => exact .ok _
  | cons record records ih =>
    unfold constants
    dsimp only
    split
    · next error herror => exact .error (constant_fails initializer program state record _ herror)
    · next next hnext => exact ih next _

/-- A load that fails does so with a foreseen error. The types that it stores strings with have
    a buffer for every string of up to 128 bytes, with a heap form that holds the string. -/
theorem load_fails (patterns : PatternLanguage) (config : LoadConfig) (initializer : Initializer σ)
    (state : σ) (doc : Document) :
    (∀ error, (load patterns config initializer state doc).outcome = .error error →
      error.IsForeseen config doc) ∧
    ∀ registry declared types, (Load.types config registry doc.types).outcome = .ok declared →
      (boxedTypes registry declared doc.boxedTypes).outcome = .ok types →
      ∀ length ≤ maxBufferString, ∃ tid capacity desc,
        stringBufferFor? length = some (tid, capacity) ∧ types.type? tid = some desc ∧
        desc.tid = tid ∧ desc.hasHeapForm = true ∧ desc.size.heapSize = capacity ∧
        length ≤ capacity := by
  constructor
  · rw [load_outcome]
    exact (static_fails patterns config doc).bind fun program _ => constants_fails _ _ _ _
  · intro registry declared types htypes hboxed length hlength
    obtain ⟨tid, capacity, desc, hbuffer, hdesc, htid, -, hform, hsize, hroom⟩ :=
      stringBuffer_of_length_le (holdsReserved_boxedTypes htypes hboxed) hlength
    exact ⟨tid, capacity, desc, hbuffer, hdesc, htid, hform, hsize, hroom⟩

/-- Strings that do not fit under the limit of the heap are reported as such. -/
theorem load_fails_of_mixedLiterals :
    ∃ error, (load .basic { LoadConfig.standard with maxHeapBytes := 79 } .absent ()
        mixedLiterals).outcome = .error error ∧
      error.IsForeseen { LoadConfig.standard with maxHeapBytes := 79 } mixedLiterals ∧
      ∃ program desc, (load .basic .standard .absent () mixedLiterals).outcome = .ok program ∧
        program.types.type? ⟨24⟩ = some desc ∧ desc.size.heapSize = 128 := by
  have hfails : (load .basic { LoadConfig.standard with maxHeapBytes := 79 } .absent ()
      mixedLiterals).outcome.isOk = false := by
    decide +kernel
  have hok : (load .basic .standard .absent () mixedLiterals).outcome.isOk = true := by
    decide +kernel
  obtain ⟨program, hload⟩ := Except.exists_of_isOk hok
  obtain ⟨run⟩ := static_eq_ok_iff.mp (static_of_load hload (.inl rfl))
  obtain ⟨-, hbuffers⟩ := load_fails .basic .standard .absent () mixedLiterals
  obtain ⟨tid, capacity, desc, hbuffer, hdesc, -, -, hsize, -⟩ :=
    hbuffers _ _ _ run.types_ok run.boxedTypes_ok 128 (by decide)
  obtain ⟨rfl, rfl⟩ : tid = ⟨24⟩ ∧ capacity = 128 := Prod.mk.inj (Option.some.inj hbuffer).symm
  obtain ⟨hforeseen, -⟩ :=
    load_fails .basic { LoadConfig.standard with maxHeapBytes := 79 } .absent () mixedLiterals
  cases houtcome : (load .basic { LoadConfig.standard with maxHeapBytes := 79 } .absent ()
      mixedLiterals).outcome with
  | ok other =>
    rw [houtcome] at hfails
    cases hfails
  | error error =>
    exact ⟨error, rfl, hforeseen error houtcome, program, desc, hload, hdesc, hsize⟩

end Load

end ProgramImage
