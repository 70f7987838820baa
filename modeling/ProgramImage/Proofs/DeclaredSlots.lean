import ProgramImage.Proofs.LoadRun
import ProgramImage.Proofs.Resolution
import ProgramImage.Proofs.TypeNames

/-!
# Declarations and their slots

The tables of a loaded program hold the declarations of the document, each under the number
of its key. The names of types are all different, so every declared type has a number of its
own. Names of fields and callables may be repeated. A declaration is then stored under the
last number of its name, and the slots of the earlier ones stay empty.

## Main definitions

* `IsLastPlace` says where a name stands last in a list.
* `SlotTable.HoldsLatest` says that a table holds records under the last places of their keys.
* `TypeTable.HoldsDeclared` says that a table holds the types of a document, beside the
  reserved ones.
* `Program.Holds` says that the tables of a program hold the declarations of a document.

## Main statements

* `FillRun.holdsLatest` and `Load.holdsDeclared` find the declarations behind a table.
* `Load.holds_of_run` holds of every program that is loaded without its constants.
-/

namespace ProgramImage

/-- A name stands at a place of a list and nowhere behind it. -/
structure IsLastPlace (names : List String) (name : String) (p : Nat) : Prop where
  getElem?_eq : names[p]? = some name
  not_later : ∀ q, p < q → names[q]? ≠ some name

/-- A table has a slot for each place of a list of names, and holds just the declarations of
    some records, each at the last place of its key. No two records have one key, and a place
    whose name is repeated further back is empty. -/
structure SlotTable.HoldsLatest {ρ α : Type} [Declared α] (table : SlotTable α)
    (names : List String) (records : List ρ) (key : ρ → String)
    (resolve : ρ → Except LoadError α) : Prop where
  size_eq : table.size = names.length
  isPlaced : table.IsPlaced
  keys_nodup : (records.map key).Nodup
  origin : ∀ p item, table.get? p = some item →
    ∃ record ∈ records, IsLastPlace names (key record) p ∧ resolve record = .ok item
  stored : ∀ record ∈ records, ∃ item, resolve record = .ok item ∧
    table.get? (Declared.place item) = some item
  repeats_empty : ∀ p q name, p < q → names[p]? = some name → names[q]? = some name →
    table.get? p = none

/-- A table has a slot for each name of a type. It holds the reserved descriptors and those of
    the declarations of a document, each under the number of its key, and nothing else. No two
    declarations have one key. -/
structure TypeTable.HoldsDeclared (table : TypeTable) (config : LoadConfig)
    (registry : NameRegistry) (doc : Document) : Prop where
  size_eq : table.size = registry.count .type
  isPlaced : table.IsPlaced
  reserved : table.HoldsReserved
  keys_nodup : (doc.types.map TypeRecord.key ++ doc.boxedTypes.map BoxedRecord.key).Nodup
  origin : ∀ tid desc, table.type? tid = some desc → tid.isReserved = false →
    (∃ record ∈ doc.types, registry.resolve tid = some record.key ∧
      Load.typeDescriptor registry config.verifyMasks record = .ok desc) ∨
    ∃ record ∈ doc.boxedTypes, registry.resolve tid = some record.key ∧
      Load.boxedType registry table record = .ok desc
  types_stored : ∀ record ∈ doc.types, ∃ desc,
    Load.typeDescriptor registry config.verifyMasks record = .ok desc ∧
      table.type? desc.tid = some desc
  boxedTypes_stored : ∀ record ∈ doc.boxedTypes, ∃ desc,
    Load.boxedType registry table record = .ok desc ∧ table.type? desc.tid = some desc

/-- The tables of a program hold the declarations of a document. Its type names are all
    different and are the reserved ones, which come first, and those of the document. Its
    fields and callables are numbered as they are listed. -/
structure Program.Holds (program : Program) (config : LoadConfig) (doc : Document) : Prop where
  typesNumbered : program.names.TypesNumbered
  typeNames_iff : ∀ name, name ∈ program.names.names .type ↔
    name ∈ reservedNames ∨ name ∈ doc.typeNames
  fieldNames_eq : (program.names.names .field).toList = doc.fieldNames
  invokeNames_eq : (program.names.names .invoke).toList = doc.invokeNames
  types : program.types.HoldsDeclared config program.names doc
  fields : program.fields.HoldsLatest doc.fieldNames doc.fields FieldRecord.key
    (Load.field program.names)
  invokes : program.invokes.HoldsLatest doc.invokeNames doc.invokes InvokeRecord.key
    (Load.invoke program.names config.verifyMasks)

/-! ### Tables of repeated names -/

namespace NameRegistry

variable {registry : NameRegistry} {space : Namespace}

theorem lookup_iff_isLastPlace {names : List String}
    (hnames : (registry.names space).toList = names) {name : String} {index : Index space} :
    registry.lookup space name = some index ↔ IsLastPlace names name index.value := by
  subst hnames
  simp only [lookup_eq_some_iff, ← Array.getElem?_toList]
  exact ⟨fun ⟨hname, hlater⟩ => ⟨hname, hlater⟩, fun ⟨hname, hlater⟩ => ⟨hname, hlater⟩⟩

end NameRegistry

/-- When a record is resolved to the number of its key, no two records of a run have one
    key. -/
theorem FillRun.keys_nodup_of_lookup {ρ α : Type} [Declared α] {registry : NameRegistry}
    {space : Namespace} {table later : SlotTable α} {records : List ρ} {key : ρ → String}
    {resolve : SlotTable α → ρ → Except LoadError α} (run : FillRun resolve table records later)
    (hresolve : ∀ mid record item, resolve mid record = .ok item →
      registry.lookup space (key record) = some ⟨Declared.place item⟩) :
    (records.map key).Nodup := by
  let place (name : String) : Nat := ((registry.lookup space name).map Index.value).getD 0
  have hplace : ∀ mid record item, resolve mid record = .ok item →
      Declared.place item = place (key record) := by
    intro mid record item hresolved
    simp only [place, hresolve mid record item hresolved, Option.map_some, Option.getD_some]
  exact run.keys_nodup hplace

/-- A table that is filled from nothing holds the records at the last places of their keys,
    when a record is resolved to the number of its key. -/
theorem FillRun.holdsLatest {ρ α : Type} [Declared α] {registry : NameRegistry}
    {space : Namespace} {names : List String} {records : List ρ} {later : SlotTable α}
    {key : ρ → String} {resolve : ρ → Except LoadError α}
    (run : FillRun (fun _ record => resolve record) (.empty (registry.count space)) records later)
    (hnames : (registry.names space).toList = names)
    (hresolve : ∀ record item, resolve record = .ok item →
      registry.lookup space (key record) = some ⟨Declared.place item⟩) :
    later.HoldsLatest names records key resolve := by
  have hplaced : later.IsPlaced := run.isPlaced (SlotTable.isPlaced_empty _)
  have horigin : ∀ p item, later.get? p = some item →
      ∃ record ∈ records, IsLastPlace names (key record) p ∧ resolve record = .ok item := by
    intro p item hitem
    rcases run.origin hitem with hempty | ⟨record, hrecord, -, hresolved, -⟩
    · simp at hempty
    · have hlookup := hresolve record item hresolved
      rw [hplaced p item hitem] at hlookup
      exact ⟨record, hrecord, (NameRegistry.lookup_iff_isLastPlace hnames).mp hlookup, hresolved⟩
  refine ⟨?_, hplaced, ?_, horigin, ?_, ?_⟩
  · rw [run.size_eq, SlotTable.size_empty, ← hnames]
    exact Array.length_toList.symm
  · exact run.keys_nodup_of_lookup fun _ => hresolve
  · intro record hrecord
    obtain ⟨-, item, hresolved, -, -, hstored⟩ := run.stored hrecord
    exact ⟨item, hresolved, hstored⟩
  · -- what a filled slot holds has its key at the slot for the last time
    intro p q name hpq hp hq
    refine Option.eq_none_iff_forall_not_mem.mpr ?_
    intro item hitem
    obtain ⟨record, -, hlast, -⟩ := horigin p item hitem
    have hname : name = key record := Option.some.inj (hp.symm.trans hlast.getElem?_eq)
    rw [hname] at hq
    exact hlast.not_later q hpq hq

namespace Load

variable {config : LoadConfig} {registry other : NameRegistry} {doc : Document}

/-! ### Fields and callables -/

theorem resolve_congr {space : Namespace} (htable : registry.table space = other.table space)
    (name context : String) :
    resolve registry space name context = resolve other space name context := by
  unfold resolve NameRegistry.lookup
  rw [htable]

theorem field_congr (hfields : registry.table .field = other.table .field)
    (htypes : registry.table .type = other.table .type) (record : FieldRecord) :
    field registry record = field other record := by
  unfold field resolveType
  rw [resolve_congr hfields, resolve_congr htypes]

/-- A document numbers its fields and callables by their places in the lists of names, and
    its fields are declared with the names of the whole document. -/
theorem names_run {fields : FieldTable} (h : (names doc).outcome = .ok (registry, fields)) :
    (registry.names .field).toList = doc.fieldNames ∧
      (registry.names .invoke).toList = doc.invokeNames ∧
      FillRun (fun _ record => field registry record) (.empty (registry.count .field)) doc.fields
        fields := by
  refine ⟨names_namesIn h (by decide), names_namesIn h (by decide), ?_⟩
  obtain ⟨typed, fielded, -, rfl, hfill, rfl⟩ := names_eq_ok_iff.mp h
  -- the callables are numbered after the fields are declared
  have hkept : ∀ space, space ≠ .invoke → space ≠ .virtualInvoke →
      (((typed.pushAll .property doc.propertyNames).pushAll .field doc.fieldNames).pushAll .invoke
        doc.invokeNames |>.pushAll .virtualInvoke doc.virtualInvokeNames).table space =
      ((typed.pushAll .property doc.propertyNames).pushAll .field doc.fieldNames).table space := by
    intro space hinvoke hvirtual
    rw [NameRegistry.table_pushAll_of_ne hvirtual, NameRegistry.table_pushAll_of_ne hinvoke]
  have hkeptFields := hkept .field (by decide) (by decide)
  have hkeptTypes := hkept .type (by decide) (by decide)
  rw [fill_eq_ok_iff (fun _ _ => Traced.outcome_lift_id _)] at hfill
  have hsame : field _ = field _ :=
    funext fun record => field_congr hkeptFields hkeptTypes record
  rw [NameRegistry.count, hkeptFields, ← NameRegistry.count, hsame]
  exact hfill

/-! ### Types -/

/-- No two type declarations have one key: those of structs behind pointers find the slots of
    their keys empty when the other types are stored. -/
theorem typeKeys_nodup {declared later : TypeTable}
    (htypes : (types config registry doc.types).outcome = .ok declared)
    (hboxed : (boxedTypes registry declared doc.boxedTypes).outcome = .ok later) :
    (doc.types.map TypeRecord.key ++ doc.boxedTypes.map BoxedRecord.key).Nodup := by
  rw [types_eq_ok_iff] at htypes
  rw [boxedTypes_eq_ok_iff] at hboxed
  refine List.nodup_append.mpr ⟨?_, ?_, ?_⟩
  · exact htypes.keys_nodup_of_lookup fun _ _ _ hdesc => (typeDescriptor_eq_ok hdesc).1
  · exact hboxed.keys_nodup_of_lookup fun _ _ _ hdesc => boxedType_key hdesc
  · intro name hname boxedName hboxedName heq
    obtain ⟨record, hrecord, rfl⟩ := List.mem_map.mp hname
    obtain ⟨boxed, hboxedRecord, rfl⟩ := List.mem_map.mp hboxedName
    obtain ⟨-, desc, hdesc, -, -, hstored⟩ := htypes.stored hrecord
    obtain ⟨mid, other, hother, -, hempty, -⟩ := hboxed.stored hboxedRecord
    have hsame : other.tid = desc.tid := by
      have hlookup := (typeDescriptor_eq_ok hdesc).1
      rw [heq, boxedType_key hother] at hlookup
      exact Option.some.inj hlookup
    have hplace : Declared.place other = Declared.place desc := congrArg Index.value hsame
    rw [hplace, hstored] at hempty
    cases hempty

theorem holdsDeclared {declared later : TypeTable} (hregistry : registry.TypesNumbered)
    (htypes : (types config registry doc.types).outcome = .ok declared)
    (hboxed : (boxedTypes registry declared doc.boxedTypes).outcome = .ok later) :
    later.HoldsDeclared config registry doc := by
  have hplaced : later.IsPlaced := types_isPlaced htypes hboxed
  have htypesRun := types_eq_ok_iff.mp htypes
  have hboxedRun := boxedTypes_eq_ok_iff.mp hboxed
  refine ⟨?_, hplaced, holdsReserved_boxedTypes htypes hboxed, typeKeys_nodup htypes hboxed,
    ?_, ?_, ?_⟩
  · rw [hboxedRun.size_eq, htypesRun.size_eq, TypeTable.size_reserved]
    exact Nat.max_eq_left hregistry.le_count
  · intro tid desc hdesc htid
    have hown : desc.tid = tid := TypeTable.tid_eq hplaced hdesc
    rcases types_origin htypes hboxed hdesc with
      hreserved | ⟨record, hrecord, hresolved⟩ | ⟨record, hrecord, hresolved⟩
    · have hlt : tid.value < reservedDescriptors.length :=
        (List.getElem?_eq_some_iff.mp hreserved).1
      have hreservedTid : tid.isReserved = true := decide_eq_true hlt
      rw [hreservedTid] at htid
      cases htid
    · have hlookup := (typeDescriptor_eq_ok hresolved).1
      rw [hown] at hlookup
      exact .inl ⟨record, hrecord, NameRegistry.resolve_of_lookup hlookup, hresolved⟩
    · have hlookup := boxedType_key hresolved
      rw [hown] at hlookup
      exact .inr ⟨record, hrecord, NameRegistry.resolve_of_lookup hlookup, hresolved⟩
  · intro record hrecord
    obtain ⟨-, desc, hresolved, -, -, hstored⟩ := htypesRun.stored hrecord
    exact ⟨desc, hresolved, hboxedRun.extends_table _ _ hstored⟩
  · intro record hrecord
    obtain ⟨mid, desc, hresolved, hextends, -, hstored⟩ := hboxedRun.stored hrecord
    exact ⟨desc, boxedType_of_extends hextends hresolved, hstored⟩

/-! ### Programs -/

/-- A program that is loaded without its constants holds the declarations of its document. -/
theorem holds_of_run {patterns : PatternLanguage} {program : Program}
    (run : Run patterns config doc program) : program.Holds config doc := by
  have htypesNumbered := names_typesNumbered run.names_ok
  obtain ⟨hfieldNames, hinvokeNames, hfields⟩ := names_run run.names_ok
  constructor
  · exact htypesNumbered
  · exact names_types_mem_iff run.names_ok
  · exact hfieldNames
  · exact hinvokeNames
  · exact holdsDeclared htypesNumbered run.types_ok run.boxedTypes_ok
  · exact hfields.holdsLatest hfieldNames fun record desc h => (field_refers h).1
  · exact (invokes_eq_ok_iff.mp run.invokes_ok).holdsLatest hinvokeNames
      fun record found h => (invoke_refers h).1

end Load

end ProgramImage
