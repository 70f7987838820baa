import ProgramImage.Load.Phases
import ProgramImage.Proofs.GlobalBuffer
import ProgramImage.Proofs.LiteralLayout
import ProgramImage.Proofs.Resolution

/-!
# Storing literals

A literal that is stored changes the bytes that it covers and appends at most one object
to the heap. Nothing else in the memory changes, so after a list of literals a byte is
decided by the last literal over it, and the heap holds the objects of the long strings in
the order of their literals.

## Main definitions

* `LiteralRecord.Stored` is the effect of one literal on the memory.
* `LiteralRun` is the effect of a list of literals, one after the other.

## Main statements

* `Load.literalRun` finds the run behind the phase of the literals.
* `LiteralRun.objects` is the heap after a run.
* `LiteralRun.stores` and `LiteralRun.getElem?_uncovered` are the global buffer after a
  run, byte by byte.
-/

namespace ProgramImage

namespace Literal

variable {types : TypeTable} {value : Literal}

/-- A value is encoded as its image, and its object is appended to the heap. -/
theorem encode_eq_ok {heap later : Heap} {bytes : List UInt8} (htypes : types.HoldsReserved)
    (h : value.encode types heap = .ok (bytes, later)) :
    bytes = value.image heap.count ∧
      later.objects.toList = heap.objects.toList ++ value.object?.toList ∧
      later.roots = heap.roots := by
  cases value with
  | string value =>
    obtain ⟨⟨slot, grown⟩, hslot, hpair⟩ := Except.map_eq_ok.mp h
    cases hpair
    obtain ⟨rfl, hobjects, hroots⟩ := stringSlot_eq_ok htypes hslot
    exact ⟨rfl, hobjects, hroots⟩
  | _ =>
    cases h
    exact ⟨rfl, (List.append_nil _).symm, rfl⟩

/-- A value that takes bytes is encoded first, and then written. -/
theorem store_of_ne_unit (hunit : value ≠ .unit) (types : TypeTable) (memory : Memory)
    (offset : Nat) :
    value.store types memory offset =
      match value.encode types memory.heap with
      | .error error => (.error error, memory)
      | .ok (bytes, heap) =>
        ((({ memory with heap } : Memory).write offset bytes).1.mapError .global,
          (({ memory with heap } : Memory).write offset bytes).2) := by
  cases value with
  | unit => exact absurd rfl hunit
  | _ => rfl

/-- A value is encoded before it is written, unless it takes no bytes. -/
theorem write_of_store {memory later : Memory} {offset : Nat} (hunit : value ≠ .unit)
    (h : value.store types memory offset = (.ok (), later)) :
    ∃ bytes heap, value.encode types memory.heap = .ok (bytes, heap) ∧
      ({ memory with heap } : Memory).write offset bytes = (.ok (), later) := by
  rw [store_of_ne_unit hunit] at h
  split at h
  · cases h
  · next bytes heap hencode =>
    obtain ⟨hresult, hlater⟩ := Prod.mk.inj h
    exact ⟨bytes, heap, hencode, Prod.ext (Except.mapError_eq_ok.mp hresult) hlater⟩

/-- A literal is placed by storing the value of its text. -/
theorem place_eq_ok_iff {regexes : RegexTable} {memory later : Memory} {offset : Nat}
    {tid : TypeId} {text : String} :
    place types regexes memory offset tid text = (.ok value, later) ↔
      parse regexes tid text = .ok value ∧ value.store types memory offset = (.ok (), later) := by
  unfold place
  constructor
  · intro h
    split at h
    · cases h
    · next found hparse =>
      cases hstore : found.store types memory offset with
      | mk result stored =>
        rw [hstore] at h
        cases result with
        | error error => cases h
        | ok _ =>
          cases h
          exact ⟨hparse, hstore⟩
  · rintro ⟨hparse, hstore⟩
    simp only [hparse, hstore]
    rfl

/-- A value is stored by writing its image. A value without an image is stored anywhere. -/
theorem store_eq_ok {memory later : Memory} {offset : Nat} (htypes : types.HoldsReserved)
    (h : value.store types memory offset = (.ok (), later)) :
    (value.image memory.heap.count = [] ∨
        offset + (value.image memory.heap.count).length ≤ memory.globals.size) ∧
      later.globals = memory.globals.overwrite offset (value.image memory.heap.count) ∧
      later.heap.objects.toList = memory.heap.objects.toList ++ value.object?.toList ∧
      later.heap.roots = memory.heap.roots := by
  by_cases hunit : value = .unit
  · subst hunit
    cases h
    exact ⟨.inl rfl, rfl, (List.append_nil _).symm, rfl⟩
  · obtain ⟨bytes, heap, hencode, hwrite⟩ := write_of_store hunit h
    obtain ⟨rfl, hobjects, hroots⟩ := encode_eq_ok htypes hencode
    obtain ⟨hrange, rfl⟩ := Memory.write_eq_ok_iff.mp hwrite
    exact ⟨.inr hrange, rfl, hobjects, hroots⟩

end Literal

/-! ### One literal -/

/-- A literal is stored as a value: its bytes are written where it starts, and its object,
    if it takes one, is appended to the heap. -/
structure LiteralRecord.Stored (regexes : RegexTable) (record : LiteralRecord)
    (before after : Memory) (value : Literal) : Prop where
  denotes : record.Denotes regexes value
  inside : ∀ j, record.Covers j → j < before.globals.size
  globals : after.globals = before.globals.overwrite record.start (value.image before.heap.count)
  objects : after.heap.objects.toList = before.heap.objects.toList ++ record.object?.toList
  roots : after.heap.roots = before.heap.roots

namespace LiteralRecord

variable {names : NameRegistry} {types : TypeTable} {regexes : RegexTable}
  {record : LiteralRecord} {before after : Memory} {value : Literal}

/-- A literal that is placed is stored as what its text stands for. -/
theorem stored_of_place {tid : TypeId} (hnames : names.TypesNumbered)
    (htypes : types.HoldsReserved) (hlookup : names.lookup .type record.type = some tid)
    (h : Literal.place types regexes before record.start tid record.text = (.ok value, after)) :
    record.Stored regexes before after value := by
  obtain ⟨hparse, hstore⟩ := Literal.place_eq_ok_iff.mp h
  have hvalue := Literal.denotes_of_parse hparse
  have hdenotes : record.Denotes regexes value :=
    ⟨tid, (hnames.lookup_reserved_iff hvalue.isReserved).mp hlookup, hvalue⟩
  have hlength := hdenotes.length_image before.heap.count
  obtain ⟨hrange, hglobals, hobjects, hroots⟩ := Literal.store_eq_ok htypes hstore
  refine ⟨hdenotes, ?_, hglobals, ?_, hroots⟩
  · intro j hj
    unfold Covers at hj
    rcases hrange with hnil | hfits
    · rw [hnil, List.length_nil] at hlength
      omega
    · omega
  · rw [hobjects, hdenotes.object?_eq]

/-- A stored literal counts as one object when it is a long string. -/
theorem Stored.count (h : record.Stored regexes before after value) :
    after.heap.count = before.heap.count + record.isLongString.toNat := by
  have hlength := congrArg List.length h.objects
  rw [List.length_append, Array.length_toList, Array.length_toList] at hlength
  rw [Heap.count, hlength, Heap.count, ← record.isSome_object?]
  cases record.object? <;> rfl

theorem Stored.getElem?_covered (h : record.Stored regexes before after value) {j : Nat}
    (hj : record.Covers j) :
    after.globals.toList[j]? = (value.image before.heap.count)[j - record.start]? := by
  have hlength := h.denotes.length_image before.heap.count
  have hin := h.inside j hj
  rw [h.globals, GlobalStore.getElem?_overwrite, hlength, if_pos ⟨hj.1, hj.2, hin⟩]

theorem Stored.getElem?_uncovered (h : record.Stored regexes before after value) {j : Nat}
    (hj : ¬record.Covers j) : after.globals.toList[j]? = before.globals.toList[j]? := by
  rw [h.globals, GlobalStore.getElem?_overwrite_outside]
  rw [h.denotes.length_image]
  exact hj

end LiteralRecord

/-! ### A list of literals -/

/-- Literals are stored one after the other. -/
inductive LiteralRun (regexes : RegexTable) : List LiteralRecord → Memory → Memory → Prop
  | nil (memory : Memory) : LiteralRun regexes [] memory memory
  | cons {record : LiteralRecord} {rest : List LiteralRecord} {before mid after : Memory}
      {value : Literal} (hfirst : record.Stored regexes before mid value)
      (hrest : LiteralRun regexes rest mid after) :
      LiteralRun regexes (record :: rest) before after

namespace LiteralRun

variable {regexes : RegexTable} {literals : List LiteralRecord} {before after : Memory}

theorem size_eq (run : LiteralRun regexes literals before after) :
    after.globals.size = before.globals.size := by
  induction run with
  | nil => rfl
  | cons hfirst _ ih => rw [ih, hfirst.globals, GlobalStore.size_overwrite]

theorem mask_eq (run : LiteralRun regexes literals before after) :
    after.globals.mask = before.globals.mask := by
  induction run with
  | nil => rfl
  | cons hfirst _ ih => rw [ih, hfirst.globals, GlobalStore.mask_overwrite]

theorem roots_eq (run : LiteralRun regexes literals before after) :
    after.heap.roots = before.heap.roots := by
  induction run with
  | nil => rfl
  | cons hfirst _ ih => rw [ih, hfirst.roots]

/-- A run appends the objects of the long strings, in the order of the literals. -/
theorem objects (run : LiteralRun regexes literals before after) :
    after.heap.objects.toList = before.heap.objects.toList ++ stringObjects literals := by
  induction run with
  | nil => exact (List.append_nil _).symm
  | @cons record rest _ _ _ _ hfirst _ ih =>
    have hcons : stringObjects (record :: rest) = record.object?.toList ++ stringObjects rest := by
      unfold stringObjects
      cases hobject : record.object? with
      | none => rw [List.filterMap_cons_none hobject]; rfl
      | some object => rw [List.filterMap_cons_some hobject]; rfl
    rw [ih, hfirst.objects, hcons, List.append_assoc]

/-- A byte that no literal covers stays as it was. -/
theorem getElem?_uncovered (run : LiteralRun regexes literals before after) {j : Nat}
    (hj : ∀ record ∈ literals, ¬record.Covers j) :
    after.globals.toList[j]? = before.globals.toList[j]? := by
  induction run with
  | nil => rfl
  | cons hfirst _ ih =>
    rw [ih fun later hlater => hj later (List.mem_cons_of_mem _ hlater)]
    exact hfirst.getElem?_uncovered (hj _ List.mem_cons_self)

/-- Every literal of a run lies inside the global buffer and stands for a value. The bytes
    where no later literal covers it are those of the value, whose object has as many
    objects before it as there are long strings before the literal. -/
theorem stores (run : LiteralRun regexes literals before after) {i : Nat}
    {record : LiteralRecord} (hrecord : literals[i]? = some record) :
    ∃ value, record.Denotes regexes value ∧
      (∀ j, record.Covers j → j < before.globals.size) ∧
      ∀ j, IsLastOver literals i j →
        after.globals.toList[j]? =
          (value.image (before.heap.count + longStringsBefore literals i))[j - record.start]? := by
  -- a literal is stored by its own step, and the steps behind it keep what it is last over
  induction run generalizing i with
  | nil => cases hrecord
  | @cons first rest before mid after value hfirst hrest ih =>
    cases i with
    | zero =>
      obtain rfl : first = record := Option.some.inj hrecord
      refine ⟨value, hfirst.denotes, hfirst.inside, ?_⟩
      rintro j ⟨⟨_, hsame, hcovers⟩, hlast⟩
      cases hsame
      -- no later literal covers the byte, so the rest of the run leaves it alone
      have hkept : after.globals.toList[j]? = mid.globals.toList[j]? := by
        apply hrest.getElem?_uncovered
        intro later hlater
        obtain ⟨k, hk⟩ := List.mem_iff_getElem?.mp hlater
        exact hlast (k + 1) later (Nat.succ_pos k) hk
      rw [hkept, hfirst.getElem?_covered hcovers]
      rfl
    | succ i =>
      obtain ⟨found, hdenotes, hinside, hbytes⟩ := ih hrecord
      have hsize : mid.globals.size = before.globals.size := by
        rw [hfirst.globals, GlobalStore.size_overwrite]
      have hplace : mid.heap.count + longStringsBefore rest i =
          before.heap.count + longStringsBefore (first :: rest) (i + 1) := by
        rw [hfirst.count, longStringsBefore_cons, Nat.add_assoc]
      rw [hplace] at hbytes
      rw [hsize] at hinside
      refine ⟨found, hdenotes, hinside, ?_⟩
      rintro j ⟨hcovers, hlast⟩
      refine hbytes j ⟨hcovers, ?_⟩
      intro k later hk hlater
      exact hlast (k + 1) later (Nat.succ_lt_succ hk) hlater

end LiteralRun

namespace Load

variable {registry : NameRegistry} {types : TypeTable} {table : RegexTable}
  {records : List LiteralRecord} {before after : Memory}

/-- Stores one literal. -/
def storeLiteral (registry : NameRegistry) (types : TypeTable) (table : RegexTable)
    (memory : Memory) (record : LiteralRecord) : Except LoadError Memory := do
  let tid ← resolveType registry record.type "litdecls"
  match Literal.place types table memory record.start tid record.text with
  | (.ok _, later) => return later
  | (.error error, _) => throw (.literal record.start record.type error)

/-- The phase of the literals stores them one after the other. -/
theorem literals_outcome (records : List LiteralRecord) :
    (literals registry types table before records).outcome =
      records.foldlM (storeLiteral registry types table) before := by
  unfold literals
  rw [Traced.outcome_bind]
  refine (Traced.outcome_foldlM _ _ _).trans ?_
  congr
  funext memory record
  rw [Traced.outcome_bind, Traced.outcome_lift_id]
  refine congrArg _ (funext fun tid => ?_)
  show _ = match Literal.place types table memory record.start tid record.text with
    | (.ok _, later) => Except.ok later
    | (.error error, _) => Except.error (LoadError.literal record.start record.type error)
  unfold LiteralRecord.start
  obtain ⟨result, later⟩ :=
    Literal.place types table memory record.offset.toNat tid record.text
  cases result <;> rfl

/-- A literal of a numbered type is placed. -/
theorem storeLiteral_of_lookup {record : LiteralRecord} {tid : TypeId}
    (htid : registry.lookup .type record.type = some tid) :
    storeLiteral registry types table before record =
      match Literal.place types table before record.start tid record.text with
      | (.ok _, later) => .ok later
      | (.error error, _) => .error (.literal record.start record.type error) := by
  have hresolve : resolveType registry record.type "litdecls" = .ok tid :=
    resolve_eq_ok_iff.mpr htid
  unfold storeLiteral
  rw [hresolve]
  rfl

theorem storeLiteral_eq_ok_iff {record : LiteralRecord} :
    storeLiteral registry types table before record = .ok after ↔
      ∃ tid value, registry.lookup .type record.type = some tid ∧
        Literal.place types table before record.start tid record.text = (.ok value, after) := by
  constructor
  · intro h
    obtain ⟨tid, hresolve, -⟩ := Except.bind_eq_ok.mp h
    have htid := resolve_eq_ok_iff.mp hresolve
    rw [storeLiteral_of_lookup htid] at h
    split at h
    · next value later hplace =>
      cases h
      exact ⟨tid, value, htid, hplace⟩
    · cases h
  · rintro ⟨tid, value, htid, hplace⟩
    rw [storeLiteral_of_lookup htid, hplace]

/-- The phase of the literals is a run. -/
theorem literalRun (hnames : registry.TypesNumbered) (htypes : types.HoldsReserved)
    (h : (literals registry types table before records).outcome = .ok after) :
    LiteralRun table records before after := by
  rw [literals_outcome] at h
  induction records generalizing before with
  | nil =>
    cases h
    exact .nil _
  | cons record rest ih =>
    rw [List.foldlM_cons] at h
    obtain ⟨mid, hmid, hrest⟩ := Except.bind_eq_ok.mp h
    obtain ⟨tid, value, hlookup, hplace⟩ := storeLiteral_eq_ok_iff.mp hmid
    exact .cons (LiteralRecord.stored_of_place hnames htypes hlookup hplace) (ih hrest)

end Load

end ProgramImage
