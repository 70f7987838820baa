import ProgramImage.Pattern.Language
import ProgramImage.Proofs.LiteralRun
import ProgramImage.Proofs.LoadRun
import ProgramImage.Proofs.TableRun

/-!
# The global buffer of a loaded program

A load starts from a buffer of zeros and an empty heap, and as long as no code runs only
the literals write to them. So the whole buffer can be told from the document: each byte
belongs to the last literal over it, or is still zero.

## Main definitions

* `Memory.IsFresh` is the memory before the literals.
* `GlobalStore.Holds` says that a place of the buffer reads as a value.

## Main statements

* `Load.exists_literalRun` is the run of literals behind a loaded program.
* `Load.global_buffer_of_literals` is the global buffer of a loaded program, byte by byte.
-/

namespace ProgramImage

/-- A memory to which nothing was written: a buffer of zeros, which a mask describes, and a
    heap without objects that has the buffer as its roots. -/
structure Memory.IsFresh (memory : Memory) (size : Nat) (mask : Mask) : Prop where
  globals : memory.globals = .zeros size mask
  objects : memory.heap.objects = #[]
  roots : memory.heap.roots.global = some ⟨size, mask⟩
  covered_le : mask.covered ≤ size

theorem Memory.IsFresh.count {memory : Memory} {size : Nat} {mask : Mask}
    (h : memory.IsFresh size mask) : memory.heap.count = 0 := by
  rw [Heap.count, h.objects]
  rfl

/-- A heap without objects that has a buffer of some size as its roots. -/
def Heap.fresh (limit size : Nat) (mask : Mask) : Heap :=
  { Heap.empty limit with roots := ⟨some ⟨size, mask⟩⟩ }

/-- Registering the first region needs a mask that fits it. -/
theorem Heap.registerRoots_empty {limit size : Nat} {mask : Mask} {heap : Heap} :
    (Heap.empty limit).registerRoots size mask = .ok heap ↔
      mask.covered ≤ size ∧ heap = .fresh limit size mask := by
  unfold Heap.registerRoots RootSet.register
  by_cases hcovered : mask.covered > size
  · simp [Heap.empty, RootSet.empty, hcovered, Nat.not_le_of_lt hcovered]
  · simp only [Heap.empty, RootSet.empty, if_neg hcovered, Nat.le_of_not_lt hcovered, true_and]
    exact ⟨fun h => (Except.ok.inj h).symm, fun h => congrArg Except.ok h.symm⟩

theorem Load.parseMask_eq_ok {text context : String} {mask : Mask} :
    parseMask text context = .ok mask ↔ Mask.parse text = .ok mask := by
  unfold parseMask
  cases Mask.parse text with
  | error e => simp
  | ok found => simp

/-! ### Regular expressions of types -/

/-- Regular expressions for types are passed over when the text of a literal is looked
    up. -/
theorem RegexTable.lookup_addValidator {patterns : PatternLanguage} {table later : RegexTable}
    {tid : TypeId} {text pattern : String} {id : RegexId}
    (h : table.addValidator patterns tid text pattern = .ok (id, later)) (name : String) :
    later.lookup name = table.lookup name := by
  unfold addValidator at h
  split at h
  · cases h
    rfl
  · obtain ⟨regex, -, hpush⟩ := Except.map_eq_ok.mp h
    cases hpush
    have htest : RegexEntry.hasText name ⟨.validator tid, regex⟩ = false := rfl
    unfold lookup find?
    rw [List.findIdx?_append, List.findIdx?_singleton, htest]
    simp

/-- An entry for a type stands behind the others. -/
theorem RegexTable.prefix_addValidator {patterns : PatternLanguage} {table later : RegexTable}
    {tid : TypeId} {text pattern : String} {id : RegexId}
    (h : table.addValidator patterns tid text pattern = .ok (id, later)) :
    table.entries <+: later.entries := by
  unfold addValidator at h
  split at h
  · cases h
    exact List.prefix_rfl
  · obtain ⟨regex, -, hpush⟩ := Except.map_eq_ok.mp h
    cases hpush
    exact List.prefix_append _ _

namespace Load

variable {patterns : PatternLanguage} {registry : NameRegistry} {table later : RegexTable}

/-- Adds the regular expression of a record. -/
def addRegex (patterns : PatternLanguage) (table : RegexTable) (record : RegexRecord) :
    Except LoadError RegexTable := do
  let (_, later) ← (table.insert patterns record.text record.pattern).mapError .regex
  return later

/-- Adds the regular expression of a type. -/
def addValidator (patterns : PatternLanguage) (registry : NameRegistry) (table : RegexTable)
    (record : ValidatorRecord) : Except LoadError RegexTable := do
  let tid ← resolveType registry record.type "validators"
  let (_, later) ←
    (table.addValidator patterns tid record.regex.text record.regex.pattern).mapError .regex
  return later

theorem addRegex_eq_ok {record : RegexRecord} (h : addRegex patterns table record = .ok later) :
    ∃ id, table.insert patterns record.text record.pattern = .ok (id, later) := by
  obtain ⟨⟨id, added⟩, hadded, hpure⟩ := Except.bind_eq_ok.mp h
  cases hpure
  exact ⟨id, Except.mapError_eq_ok.mp hadded⟩

theorem addValidator_eq_ok {record : ValidatorRecord}
    (h : addValidator patterns registry table record = .ok later) :
    ∃ tid id, resolveType registry record.type "validators" = .ok tid ∧
      table.addValidator patterns tid record.regex.text record.regex.pattern = .ok (id, later) := by
  obtain ⟨tid, htid, h⟩ := Except.bind_eq_ok.mp h
  obtain ⟨⟨id, added⟩, hadded, hpure⟩ := Except.bind_eq_ok.mp h
  cases hpure
  exact ⟨tid, id, htid, Except.mapError_eq_ok.mp hadded⟩

theorem regexes_outcome (records : List RegexRecord) :
    (regexes patterns records).outcome = records.foldlM (addRegex patterns) .empty := by
  unfold regexes
  rw [Traced.outcome_bind]
  refine (Traced.outcome_foldlM _ _ _).trans ?_
  congr
  funext table record
  refine (Traced.outcome_optional _ _ _).trans ?_
  rw [Traced.outcome_bind, Traced.outcome_lift]
  refine congrArg _ (funext fun added => ?_)
  exact Traced.outcome_optional _ _ _

theorem validators_outcome (records : List ValidatorRecord) :
    (validators patterns registry table records).outcome =
      records.foldlM (addValidator patterns registry) table := by
  unfold validators
  rw [Traced.outcome_bind]
  refine (Traced.outcome_foldlM _ _ _).trans ?_
  congr
  funext table record
  rw [Traced.outcome_bind, Traced.outcome_lift_id]
  refine congrArg _ (funext fun tid => ?_)
  refine (Traced.outcome_optional _ _ _).trans ?_
  rw [Traced.outcome_bind, Traced.outcome_lift]
  rfl

/-- What adding the expression of each type keeps, the phase of the validators keeps. -/
theorem validators_keeps {P : RegexTable → Prop} {records : List ValidatorRecord}
    (hstep : ∀ (mid : RegexTable) (record : ValidatorRecord) tid id next, P mid →
      resolveType registry record.type "validators" = .ok tid →
      mid.addValidator patterns tid record.regex.text record.regex.pattern = .ok (id, next) →
        P next)
    (htable : P table) (h : (validators patterns registry table records).outcome = .ok later) :
    P later := by
  rw [validators_outcome] at h
  refine Except.foldlM_keeps ?_ htable h
  intro mid record next _ hmid hnext
  obtain ⟨tid, id, htid, hadd⟩ := addValidator_eq_ok hnext
  exact hstep mid record tid id next hmid htid hadd

/-- The entries of types stand behind the others. -/
theorem validators_appends {records : List ValidatorRecord}
    (h : (validators patterns registry table records).outcome = .ok later) :
    table.entries <+: later.entries := by
  refine validators_keeps (P := fun mid => table.entries <+: mid.entries) ?_ List.prefix_rfl h
  intro mid record tid id next hmid _ hadd
  exact hmid.trans (RegexTable.prefix_addValidator hadd)

theorem validators_lookup {records : List ValidatorRecord}
    (h : (validators patterns registry table records).outcome = .ok later) (text : String) :
    later.lookup text = table.lookup text := by
  refine validators_keeps (P := fun mid => mid.lookup text = table.lookup text) ?_ rfl h
  intro mid record tid id next hmid _ hadd
  rw [RegexTable.lookup_addValidator hadd, hmid]

/-- The phase of the global buffer makes a memory, unless the buffer is too large, or its mask
    does not fit. -/
theorem memory_eq_ok_iff {config : LoadConfig} {size : Nat} {maskText : String} {made : Memory} :
    (memory config size maskText).outcome = .ok made ↔
      size ≤ config.maxGlobalBytes ∧ ∃ mask, Mask.parse maskText = .ok mask ∧
        checkCoverage config.verifyMasks "cmask" mask (.atMost size) = .ok () ∧
        mask.covered ≤ size ∧ made = ⟨.zeros size mask, .fresh config.maxHeapBytes size mask⟩ := by
  unfold memory
  by_cases hsize : size > config.maxGlobalBytes
  · rw [if_pos hsize]
    exact ⟨nofun, fun h => absurd hsize (Nat.not_lt_of_le h.1)⟩
  · rw [if_neg hsize]
    simp only [Traced.outcome_bind, Except.bind_eq_ok, Traced.outcome_lift_eq_ok,
      Heap.registerRoots_empty, parseMask_eq_ok]
    constructor
    · rintro ⟨-, -, mask, hmask, ⟨⟩, hcheck, heap, ⟨hcovered, rfl⟩, hpure⟩
      cases hpure
      exact ⟨Nat.le_of_not_lt hsize, mask, hmask, hcheck, hcovered, rfl⟩
    · rintro ⟨-, mask, hmask, hcheck, hcovered, rfl⟩
      exact ⟨(), rfl, mask, hmask, (), hcheck, _, ⟨hcovered, rfl⟩, rfl⟩

/-- The memory that is made is fresh. -/
theorem memory_isFresh {config : LoadConfig} {size : Nat} {maskText : String} {made : Memory}
    (h : (memory config size maskText).outcome = .ok made) :
    ∃ mask, Mask.parse maskText = .ok mask ∧ size ≤ config.maxGlobalBytes ∧
      made.IsFresh size mask := by
  obtain ⟨hsize, mask, hmask, -, hcovered, rfl⟩ := memory_eq_ok_iff.mp h
  exact ⟨mask, hmask, hsize, rfl, rfl, rfl, hcovered⟩

end Load

/-! ### The run of literals -/

/-- What a text stands for depends on what regular expressions are found by their texts. -/
theorem Literal.Denotes.of_lookup_eq {table later : RegexTable} {text : String} {tid : TypeId}
    {value : Literal} (hlookup : ∀ name, later.lookup name = table.lookup name)
    (h : Denotes table text tid value) : Denotes later text tid value := by
  cases h with
  | none => exact .none
  | nothing => exact .nothing
  | bool => exact .bool
  | nat hspells hle => exact .nat hspells hle
  | int hspells hlow hhigh => exact .int hspells hlow hhigh
  | bigNat hspells hle => exact .bigNat hspells hle
  | bigInt hspells hlow hhigh => exact .bigInt hspells hlow hhigh
  | float hread => exact .float hread
  | decimal hread => exact .decimal hread
  | string htext hlength => exact .string htext hlength
  | regex hfound => exact .regex ((hlookup text).trans hfound)

theorem LiteralRun.of_lookup_eq {table later : RegexTable} {literals : List LiteralRecord}
    {before after : Memory} (hlookup : ∀ name, later.lookup name = table.lookup name)
    (run : LiteralRun table literals before after) : LiteralRun later literals before after := by
  induction run with
  | nil memory => exact .nil memory
  | cons hfirst _ ih =>
    obtain ⟨tid, htid, hvalue⟩ := hfirst.denotes
    have hdenotes := hvalue.of_lookup_eq hlookup
    exact .cons { hfirst with denotes := ⟨tid, htid, hdenotes⟩ } ih

namespace Load

variable {σ : Type} {patterns : PatternLanguage} {config : LoadConfig} {initializer : Initializer σ}
  {state : σ} {doc : Document} {program : Program}

/-- The literals of a load are stored one after the other in a fresh memory, which is no larger
    than the settings allow. -/
theorem literalRun_of_run (run : Run patterns config doc program) :
    ∃ mask, Mask.parse doc.globalMask = .ok mask ∧
      doc.globalSize.toNat ≤ config.maxGlobalBytes ∧
      run.memory.IsFresh doc.globalSize.toNat mask ∧
      LiteralRun run.regexes doc.literals run.memory program.memory := by
  obtain ⟨mask, hmask, hmax, hfresh⟩ := memory_isFresh run.memory_ok
  have hnames := names_typesNumbered run.names_ok
  have htypes := holdsReserved_boxedTypes run.types_ok run.boxedTypes_ok
  exact ⟨mask, hmask, hmax, hfresh, literalRun hnames htypes run.literals_ok⟩

/-- Behind a loaded program without code there is a run of its literals over a fresh
    memory. -/
theorem exists_literalRun
    (hload : (load patterns config initializer state doc).outcome = .ok program)
    (hcode : RunsNoCode initializer doc) :
    ∃ mask before, Mask.parse doc.globalMask = .ok mask ∧
      before.IsFresh doc.globalSize.toNat mask ∧
      LiteralRun program.regexes doc.literals before program.memory := by
  obtain ⟨run⟩ := static_eq_ok_iff.mp (static_of_load hload hcode)
  obtain ⟨mask, hmask, -, hfresh, hliterals⟩ := literalRun_of_run run
  exact ⟨mask, run.memory, hmask, hfresh,
    hliterals.of_lookup_eq (validators_lookup run.validators_ok)⟩

end Load

/-! ### Reading values back -/

theorem LittleEndian.bound_eight : bound 8 = max64 + 1 := rfl

theorem LittleEndian.bound_sixteen : bound 16 = max128 + 1 := rfl

namespace GlobalStore

/-- A place of the buffer reads as a value. A string reads as the slot of its form, whose
    object is at `place`, and a number of an entry or object has to fit a word. -/
def Holds (store : GlobalStore) (offset place : Nat) : Literal → Prop
  | .unit => True
  | .bool value => store.readBool offset = .ok value
  | .nat value => store.readNat 8 offset = .ok value
  | .int value => store.readInt 8 offset = .ok value
  | .bigNat value => store.readNat 16 offset = .ok value
  | .bigInt value => store.readInt 16 offset = .ok value
  | .float value => store.readNat 8 offset = .ok value.bits.toNat
  | .regex id => id.value ≤ max64 → store.readNat 8 offset = .ok id.value
  | .string value =>
    place < max64 → store.readString offset =
      .ok (some (.ofContent place (Utf8.encode value.toList)))

variable {store : GlobalStore} {offset : Nat}

/-- A place that holds the image of a value reads as the value. -/
theorem holds_of_image {regexes : RegexTable} {text : String} {tid : TypeId} {value : Literal}
    {place : Nat} (hvalue : Literal.Denotes regexes text tid value)
    (h : value ≠ .unit →
      store.read offset (value.image place).length = .ok (value.image place)) :
    store.Holds offset place value := by
  by_cases hunit : value = .unit
  · subst hunit
    trivial
  have hread := h hunit
  cases hvalue with
  | none => trivial
  | nothing => trivial
  | bool =>
    have hbyte : store.read offset 1 = .ok [if text == "true" then 1 else 0] := hread
    unfold Holds readBool
    rw [hbyte]
    cases text == "true" <;> rfl
  | nat _ hle =>
    rw [Literal.image, LittleEndian.length_encode] at hread
    exact readNat_encode (Nat.lt_succ_of_le hle) hread
  | int _ hlow hhigh =>
    rw [Literal.image, LittleEndian.length_encodeInt] at hread
    have hbound := LittleEndian.bound_eight
    simp only [max64] at hlow hhigh hbound
    exact readInt_encode (by omega) (by omega) hread
  | bigNat _ hle =>
    rw [Literal.image, LittleEndian.length_encode] at hread
    exact readNat_encode (Nat.lt_succ_of_le hle) hread
  | bigInt _ hlow hhigh =>
    rw [Literal.image, LittleEndian.length_encodeInt] at hread
    have hbound := LittleEndian.bound_sixteen
    simp only [max128] at hlow hhigh hbound
    exact readInt_encode (by omega) (by omega) hread
  | float _ =>
    rw [Literal.image, LittleEndian.length_encode] at hread
    exact readNat_encode (UInt64.toNat_lt _) hread
  | decimal _ =>
    rw [Literal.image, LittleEndian.length_encode] at hread
    exact readNat_encode (UInt64.toNat_lt _) hread
  | string _ hlength =>
    intro hplace
    rw [Literal.image, StringSlot.length_encode_ofContent, String.toList_ofList] at hread
    unfold readString
    rw [hread, String.toList_ofList]
    exact congrArg Except.ok
      (StringSlot.decode?_encode (StringSlot.wellFormed_ofContent (fun _ => hplace) hlength))
  | regex _ =>
    intro hid
    rw [Literal.image, LittleEndian.length_encode] at hread
    exact readNat_encode (Nat.lt_succ_of_le hid) hread

end GlobalStore

/-! ### The whole buffer -/

namespace Load

variable {σ : Type} {patterns : PatternLanguage} {config : LoadConfig} {initializer : Initializer σ}
  {state : σ} {doc : Document} {program : Program}

theorem globals_size_of_run (run : Run patterns config doc program) :
    program.memory.globals.size = doc.globalSize.toNat := by
  obtain ⟨mask, -, -, hfresh, hliterals⟩ := literalRun_of_run run
  rw [hliterals.size_eq, hfresh.globals, GlobalStore.size_zeros]

theorem globals_size_of_load
    (hload : (load patterns config initializer state doc).outcome = .ok program)
    (hcode : RunsNoCode initializer doc) :
    program.memory.globals.size = doc.globalSize.toNat := by
  obtain ⟨run⟩ := static_eq_ok_iff.mp (static_of_load hload hcode)
  exact globals_size_of_run run

theorem globals_zero_of_load
    (hload : (load patterns config initializer state doc).outcome = .ok program)
    (hcode : RunsNoCode initializer doc) {j : Nat} (hj : j < doc.globalSize.toNat)
    (hnone : ∀ record ∈ doc.literals, ¬record.Covers j) :
    program.memory.globals.toList[j]? = some 0 := by
  obtain ⟨mask, before, -, hfresh, run⟩ := exists_literalRun hload hcode
  rw [run.getElem?_uncovered hnone, hfresh.globals, GlobalStore.toList_zeros,
    List.getElem?_replicate, if_pos hj]

/-- A literal of a loaded document lies inside the buffer and stands for a value. The bytes
    where it is the last literal are those of the value, and when that is all of them, they
    are read together. -/
theorem literal_loaded (hload : (load patterns config initializer state doc).outcome = .ok program)
    (hcode : RunsNoCode initializer doc) {i : Nat} {record : LiteralRecord}
    (hrecord : doc.literals[i]? = some record) :
    ∃ value, record.Denotes program.regexes value ∧
      (∀ j, record.Covers j → j < doc.globalSize.toNat) ∧
      (∀ j, IsLastOver doc.literals i j →
        program.memory.globals.toList[j]? =
          (value.image (longStringsBefore doc.literals i))[j - record.start]?) ∧
      (IsKept doc.literals i → value ≠ .unit →
        program.memory.globals.read record.start
            (value.image (longStringsBefore doc.literals i)).length =
          .ok (value.image (longStringsBefore doc.literals i))) := by
  obtain ⟨mask, before, -, hfresh, run⟩ := exists_literalRun hload hcode
  obtain ⟨value, hdenotes, hinside, hbytes⟩ := run.stores hrecord
  rw [hfresh.globals, GlobalStore.size_zeros] at hinside
  rw [hfresh.count, Nat.zero_add] at hbytes
  refine ⟨value, hdenotes, hinside, hbytes, ?_⟩
  intro hkept hunit
  have hsize := globals_size_of_load hload hcode
  have hwidth := hdenotes.length_image (longStringsBefore doc.literals i)
  have hpos := Literal.length_image_pos hunit (longStringsBefore doc.literals i)
  have hend := hinside (record.start + record.width - 1) ⟨by omega, by omega⟩
  apply GlobalStore.read_eq_ok (by omega)
  intro k hk
  have hcovers : record.Covers (record.start + k) := ⟨by omega, by omega⟩
  rw [hbytes _ (hkept record _ hrecord hcovers), Nat.add_sub_cancel_left]

/-- The global buffer of a loaded program has the declared size. The text of a literal stands
    for one value. The literal takes the bytes of this value, all inside the buffer; where
    literals overlap, the last one decides, and where there is none, the buffer is zero. A
    literal that no later one overlaps is read back as the value of its text. -/
theorem global_buffer_of_literals
    (hload : (load patterns config initializer state doc).outcome = .ok program)
    (hcode : RunsNoCode initializer doc) :
    program.memory.globals.size = doc.globalSize.toNat ∧
      (∀ i record, doc.literals[i]? = some record →
        ∃ value, record.Denotes program.regexes value ∧
          (∀ other, record.Denotes program.regexes other → other = value) ∧
          (value.image (longStringsBefore doc.literals i)).length = record.width ∧
          (∀ j, record.Covers j → j < doc.globalSize.toNat) ∧
          (∀ j, IsLastOver doc.literals i j →
            program.memory.globals.toList[j]? =
              (value.image (longStringsBefore doc.literals i))[j - record.start]?) ∧
          (IsKept doc.literals i →
            program.memory.globals.Holds record.start (longStringsBefore doc.literals i)
              value)) ∧
      ∀ j < doc.globalSize.toNat, (∀ record ∈ doc.literals, ¬record.Covers j) →
        program.memory.globals.toList[j]? = some 0 := by
  refine ⟨globals_size_of_load hload hcode, ?_, ?_⟩
  · intro i record hrecord
    obtain ⟨value, hdenotes, hinside, hbytes, hread⟩ := literal_loaded hload hcode hrecord
    refine ⟨value, hdenotes, fun other hother => hdenotes.unique hother,
      hdenotes.length_image _, hinside, hbytes, ?_⟩
    intro hkept
    obtain ⟨tid, -, hvalue⟩ := hdenotes
    exact GlobalStore.holds_of_image hvalue (hread hkept)
  · intro j hj hnone
    exact globals_zero_of_load hload hcode hj hnone

/-- A document with two long strings and a short one, two numbers that overlap, and a
    literal without bytes behind the end of the buffer. Nothing is placed at the pointer. -/
def mixedLiterals : Document :=
  { Document.empty with
    globalMask := "333211"
    globalSize := 72
    literals :=
      [⟨32, "String", "\"sixteen or longer\""⟩, ⟨0, "String", "\"as long as the other\""⟩,
       ⟨16, "String", "\"short\""⟩, ⟨56, "Nat", "258n"⟩, ⟨57, "Bool", "true"⟩,
       ⟨90, "None", "none"⟩] }

theorem global_buffer_of_mixedLiterals :
    ∃ program, (load .basic .standard .absent () mixedLiterals).outcome = .ok program ∧
      RunsNoCode .absent mixedLiterals ∧ program.memory.globals.size = 72 ∧
      program.memory.globals.toList[57]? = some 1 ∧
      program.memory.globals.readBool 57 = .ok true ∧
      program.memory.globals.toList[71]? = some 0 := by
  have hok : (load .basic .standard .absent () mixedLiterals).outcome.isOk = true := by
    decide +kernel
  obtain ⟨program, hload⟩ := Except.exists_of_isOk hok
  have hcode : RunsNoCode .absent mixedLiterals := .inl rfl
  obtain ⟨hsize, hliterals, hzero⟩ := global_buffer_of_literals hload hcode
  obtain ⟨value, ⟨tid, htid, hvalue⟩, -, -, -, hbytes, hholds⟩ := hliterals 4 _ rfl
  obtain rfl : TypeId.bool = tid := Option.some.inj htid
  cases hvalue
  have hkept : IsKept mixedLiterals.literals 4 := isKept_of_apart rfl (by decide)
  refine ⟨program, hload, hcode, hsize, ?_, hholds hkept, hzero 71 (by decide) (by decide)⟩
  exact hbytes 57 (hkept _ 57 rfl (by decide))

end Load

end ProgramImage
