import ProgramImage.Pattern.Language
import ProgramImage.Proofs.DeclaredSlots
import ProgramImage.Proofs.FlavorRun
import ProgramImage.Proofs.LoadedGlobals

/-!
# References of a loaded program

Names become numbers in many places of a program: in descriptors and layouts, in flavors, in
callables, in the regular expressions of types, and in the constants that are left to be
computed. Each of these numbers has a slot in the table of its namespace, so that none of them
leads out of a table later.

## Main definitions

* `SlotTable.HasSlot` says that an identifier has a slot in a table.
* `Program.IsClosed` says that all identifiers in a program have slots.

## Main statements

* `Load.isClosed_of_run` holds of every program that is loaded without its constants.
* `Load.references_of_load` says which declarations stand in the slots of a loaded program, and
  that its references and those of its pending constants have slots.
* `Load.numbers_fit_of_load` says when the numbers of names have 32 bits.
-/

namespace ProgramImage

/-- An identifier has a slot in a table. -/
def SlotTable.HasSlot {α : Type} (table : SlotTable α) {space : Namespace} (index : Index space) :
    Prop :=
  index.value < table.size

/-- Every identifier in a program has a slot in the table of its namespace. Flavors stand under
    the types they are for, and a layout has an offset for each of its fields. -/
structure Program.IsClosed (program : Program) : Prop where
  types : ∀ place desc, program.types.get? place = some desc →
    program.types.HasSlot desc.tid ∧ ∀ tid ∈ desc.kind.typeIds, program.types.HasSlot tid
  layouts : ∀ place desc, program.types.get? place = some desc →
    ∀ layout ∈ desc.kind.fieldLayout?, layout.offsets.length = layout.fields.length ∧
      ∀ id ∈ layout.fields, program.fields.HasSlot id
  fields : ∀ place desc, program.fields.get? place = some desc →
    program.fields.HasSlot desc.id ∧ program.types.HasSlot desc.declaredType
  lists : ∀ entry ∈ program.flavors.lists, entry.1 = entry.2.entry ∧
    ∀ tid ∈ entry.2.typeIds, program.types.HasSlot tid
  maps : ∀ entry ∈ program.flavors.maps, entry.1 = entry.2.entryTypes ∧
    ∀ tid ∈ entry.2.typeIds, program.types.HasSlot tid
  invokes : ∀ place invoke, program.invokes.get? place = some invoke →
    program.invokes.HasSlot invoke.id ∧ (∀ tid ∈ invoke.typeIds, program.types.HasSlot tid) ∧
      ∀ id ∈ invoke.invokeIds, program.invokes.HasSlot id
  validators : ∀ entry ∈ program.regexes.entries, ∀ tid, entry.role = .validator tid →
    program.types.HasSlot tid

/-! ### Types -/

/-- A type refers to numbered types, and its layouts are resolved. -/
structure TypeDescriptor.IsResolved (desc : TypeDescriptor) (registry : NameRegistry) : Prop where
  typeIds : ∀ tid ∈ desc.kind.typeIds, registry.Numbers tid
  layouts : ∀ layout ∈ desc.kind.fieldLayout?, layout.IsResolved registry

theorem reserved_isResolved (registry : NameRegistry) :
    ∀ desc ∈ reservedDescriptors, desc.IsResolved registry := by
  have hshapes : ∀ desc ∈ reservedDescriptors, desc.kind.typeIds = [] ∧
      ∀ layout ∈ desc.kind.fieldLayout?, layout = .empty := by
    decide
  intro desc hdesc
  obtain ⟨htypeIds, hlayouts⟩ := hshapes desc hdesc
  constructor
  · rw [htypeIds]
    exact nofun
  · intro layout hlayout
    rw [hlayouts layout hlayout]
    exact ⟨rfl, nofun⟩

namespace Load

variable {config : LoadConfig} {registry : NameRegistry} {doc : Document}

theorem types_isResolved {table : TypeTable} (htable : table.HoldsDeclared config registry doc) :
    table.Every fun desc => desc.IsResolved registry := by
  intro tid desc hdesc
  cases hreserved : tid.isReserved with
  | true =>
    have hlt : tid.value < reservedDescriptors.length := of_decide_eq_true hreserved
    have hfound := htable.reserved tid _ (List.getElem?_eq_getElem hlt)
    obtain rfl := Option.some.inj (hfound.symm.trans hdesc)
    exact reserved_isResolved registry _ (List.getElem_mem hlt)
  | false =>
    rcases htable.origin tid desc hdesc hreserved with
      ⟨record, -, -, hresolved⟩ | ⟨record, -, -, hresolved⟩
    · obtain ⟨-, hkind, -⟩ := typeDescriptor_eq_ok hresolved
      obtain ⟨htypeIds, hlayouts, -⟩ := typeKind_refers hkind
      exact ⟨htypeIds, hlayouts⟩
    · obtain ⟨own, found, wrapped, layout, -, hfound, hwrapped, -, rfl⟩ :=
        boxedType_eq_ok_iff.mp hresolved
      have hplace : wrapped.tid = found := TypeTable.tid_eq htable.isPlaced hwrapped
      refine ⟨?_, nofun⟩
      intro other hother
      obtain rfl : other = wrapped.tid := List.mem_singleton.mp hother
      exact ⟨record.wrapped, by rw [hplace, hfound]⟩

end Load

/-! ### Regular expressions -/

namespace RegexTable

variable {patterns : PatternLanguage} {table later : RegexTable} {text pattern : String}
  {id : RegexId} {entry : RegexEntry}

/-- The types that regular expressions are for are numbered. -/
def IsResolved (table : RegexTable) (registry : NameRegistry) : Prop :=
  ∀ entry ∈ table.entries, ∀ tid, entry.role = .validator tid → registry.Numbers tid

theorem mem_push {role : RegexRole} {regex : Regex}
    (h : entry ∈ (table.push role regex).2.entries) :
    entry ∈ table.entries ∨ entry.role = role := by
  rcases List.mem_append.mp h with hold | hnew
  · exact .inl hold
  · rw [List.mem_singleton.mp hnew]
    exact .inr rfl

theorem mem_insert (h : table.insert patterns text pattern = .ok (id, later))
    (hentry : entry ∈ later.entries) : entry ∈ table.entries ∨ entry.role = .literal := by
  unfold insert at h
  split at h
  · cases h
    exact .inl hentry
  · obtain ⟨regex, -, hpush⟩ := Except.map_eq_ok.mp h
    cases hpush
    exact mem_push hentry

theorem mem_addValidator {tid : TypeId}
    (h : table.addValidator patterns tid text pattern = .ok (id, later))
    (hentry : entry ∈ later.entries) : entry ∈ table.entries ∨ entry.role = .validator tid := by
  unfold addValidator at h
  split at h
  · cases h
    exact .inl hentry
  · obtain ⟨regex, -, hpush⟩ := Except.map_eq_ok.mp h
    cases hpush
    exact mem_push hentry

end RegexTable

namespace Load

variable {patterns : PatternLanguage} {registry : NameRegistry} {table later : RegexTable}

/-- No regular expression of a literal is for a type. -/
theorem regexes_isResolved {records : List RegexRecord}
    (h : (regexes patterns records).outcome = .ok later) : later.IsResolved registry := by
  rw [regexes_outcome] at h
  refine Except.foldlM_keeps (P := fun mid => mid.IsResolved registry) ?_ nofun h
  intro mid record next _ hmid hnext
  obtain ⟨id, hinsert⟩ := addRegex_eq_ok hnext
  intro entry hentry tid hrole
  rcases RegexTable.mem_insert hinsert hentry with hold | hliteral
  · exact hmid entry hold tid hrole
  · rw [hliteral] at hrole
    cases hrole

theorem validators_isResolved {records : List ValidatorRecord} (htable : table.IsResolved registry)
    (h : (validators patterns registry table records).outcome = .ok later) :
    later.IsResolved registry := by
  refine validators_keeps (P := fun mid => mid.IsResolved registry) ?_ htable h
  intro mid record tid id next hmid htid hadd entry hentry other hrole
  rcases RegexTable.mem_addValidator hadd hentry with hold | hvalidator
  · exact hmid entry hold other hrole
  · rw [hvalidator] at hrole
    cases hrole
    exact resolve_numbers htid

end Load

/-! ### Constants -/

theorem Invoke.isPrimitive_eq_false_iff {invoke : Invoke} :
    invoke.isPrimitive = false ↔ ∃ content, invoke.kind = .body content := by
  unfold isPrimitive body?
  cases invoke.kind <;> simp

/-- A request is made for a body without parameters and a type that is loaded. -/
theorem Constant.request_eq_ok_iff {invokes : InvokeTable} {types : TypeTable} {offset : Nat}
    {id : InvokeId} {tid : TypeId} {request : ConstantRequest} :
    Constant.request invokes types offset id tid = .ok request ↔
      ∃ invoke desc, invokes.get? id.value = some invoke ∧
        (∃ content, invoke.kind = .body content) ∧ invoke.params = [] ∧
        types.type? tid = some desc ∧ request = ⟨offset, desc, invoke⟩ := by
  simp only [← Invoke.isPrimitive_eq_false_iff]
  unfold Constant.request
  cases hinvoke : invokes.get? id.value with
  | none => simp
  | some invoke =>
    cases hprimitive : invoke.isPrimitive with
    | true => simp [hprimitive]
    | false =>
      by_cases hparams : invoke.params = []
      · cases htype : types.type? tid with
        | none => simp [hprimitive, hparams]
        | some desc =>
          simp only [hprimitive, hparams]
          constructor
          · rintro ⟨⟩
            exact ⟨invoke, desc, rfl, hprimitive, hparams, rfl, rfl⟩
          · rintro ⟨_, _, ⟨⟩, -, -, ⟨⟩, rfl⟩
            rfl
      · simp [hprimitive, hparams]

/-! ### Loaded programs -/

namespace Program.Holds

variable {program : Program} {config : LoadConfig} {doc : Document}

-- each table has as many slots as there are names in its namespace

theorem type_hasSlot (h : program.Holds config doc) {tid : TypeId}
    (htid : program.names.Numbers tid) : program.types.HasSlot tid := by
  rw [SlotTable.HasSlot, h.types.size_eq]
  exact htid.lt_count

theorem field_hasSlot (h : program.Holds config doc) {id : FieldId}
    (hid : program.names.Numbers id) : program.fields.HasSlot id := by
  rw [SlotTable.HasSlot, h.fields.size_eq, ← h.fieldNames_eq, Array.length_toList]
  exact hid.lt_count

theorem invoke_hasSlot (h : program.Holds config doc) {id : InvokeId}
    (hid : program.names.Numbers id) : program.invokes.HasSlot id := by
  rw [SlotTable.HasSlot, h.invokes.size_eq, ← h.invokeNames_eq, Array.length_toList]
  exact hid.lt_count

end Program.Holds

namespace Load

variable {patterns : PatternLanguage} {config : LoadConfig} {doc : Document}

/-- A program that is loaded without its constants has slots for all its references. -/
theorem isClosed_of_run {program : Program} (run : Run patterns config doc program) :
    program.IsClosed := by
  have hholds := holds_of_run run
  have hdescriptors := types_isResolved hholds.types
  have hflavors : program.flavors.IsResolved program.names :=
    mapFlavors_isResolved hholds.types.isPlaced
      (listFlavors_isResolved hholds.types.isPlaced (Flavors.isResolved_empty _)
        run.listFlavors_ok)
      run.mapFlavors_ok
  have hregexes : program.regexes.IsResolved program.names :=
    validators_isResolved (regexes_isResolved run.regexes_ok) run.validators_ok
  constructor
  · intro place desc hdesc
    have hresolved := hdescriptors ⟨place⟩ desc hdesc
    have hown : Declared.place desc = place := hholds.types.isPlaced place desc hdesc
    have hlt := SlotTable.lt_size_of_get? hdesc
    rw [← hown] at hlt
    exact ⟨hlt, fun tid htid => hholds.type_hasSlot (hresolved.typeIds tid htid)⟩
  · intro place desc hdesc layout hlayout
    have hresolved := (hdescriptors ⟨place⟩ desc hdesc).layouts layout hlayout
    exact ⟨hresolved.length_offsets,
      fun id hid => hholds.field_hasSlot (hresolved.fields_numbered id hid)⟩
  · intro place desc hdesc
    obtain ⟨record, -, -, hresolved⟩ := hholds.fields.origin place desc hdesc
    obtain ⟨hid, hdeclaredType⟩ := field_refers hresolved
    exact ⟨hholds.field_hasSlot ⟨record.key, hid⟩, hholds.type_hasSlot hdeclaredType⟩
  · intro entry hentry
    obtain ⟨hkey, htypeIds⟩ := hflavors.lists entry hentry
    exact ⟨hkey, fun tid htid => hholds.type_hasSlot (htypeIds tid htid)⟩
  · intro entry hentry
    obtain ⟨hkey, htypeIds⟩ := hflavors.maps entry hentry
    exact ⟨hkey, fun tid htid => hholds.type_hasSlot (htypeIds tid htid)⟩
  · intro place invoke hfound
    obtain ⟨record, -, -, hresolved⟩ := hholds.invokes.origin place invoke hfound
    obtain ⟨hid, htypeIds, hinvokeIds, -⟩ := invoke_refers hresolved
    exact ⟨hholds.invoke_hasSlot ⟨record.key, hid⟩,
      fun tid htid => hholds.type_hasSlot (htypeIds tid htid),
      fun id hid => hholds.invoke_hasSlot (hinvokeIds id hid)⟩
  · intro entry hentry tid hrole
    exact hholds.type_hasSlot (hregexes entry hentry tid hrole)

/-- The constants that are taken down for a program have slots in its tables. -/
theorem deferred_hasSlots {program later : Program} (hclosed : program.IsClosed)
    {records : List ConstantRecord}
    (h : (constants .deferring program [] records).outcome = .ok later) :
    ∀ pending ∈ (constants .deferring program [] records).state,
      program.types.HasSlot pending.type ∧ program.invokes.HasSlot pending.invoke := by
  refine (constants_invariant (P := fun mid pending =>
    mid = { program with memory := mid.memory } ∧ ∀ constant ∈ pending,
      program.types.HasSlot constant.type ∧ program.invokes.HasSlot constant.invoke)
    ?_ ?_ h).2
  · rintro mid pending record next ⟨hmid, hpending⟩ hnext
    obtain ⟨id, tid, request, -, -, hrequest, -, -, hstate, rfl⟩ := constant_eq_ok hnext
    refine ⟨by rw [hmid], ?_⟩
    rw [hmid] at hrequest
    obtain ⟨invoke, desc, hinvoke, -, -, htype, rfl⟩ := Constant.request_eq_ok_iff.mp hrequest
    rw [hstate]
    intro constant hconstant
    rcases List.mem_append.mp hconstant with hold | hnew
    · exact hpending constant hold
    · rw [List.mem_singleton.mp hnew]
      exact ⟨(hclosed.types _ _ htype).1, (hclosed.invokes _ _ hinvoke).1⟩
  · exact ⟨rfl, nofun⟩

/-- A loaded program holds the declarations of its document under their own numbers, the last
    ones of repeated names, and every identifier in it has a slot in its table. So have the
    identifiers of the constants that are left to be computed. -/
theorem references_of_load (patterns : PatternLanguage) (config : LoadConfig) (doc : Document) :
    (∀ {σ : Type} (initializer : Initializer σ) (state : σ) (program : Program),
      (load patterns config initializer state doc).outcome = .ok program →
        program.Holds config doc ∧ program.IsClosed) ∧
    ∀ program : Program, (load patterns config .deferring [] doc).outcome = .ok program →
      ∀ pending ∈ (load patterns config .deferring [] doc).state,
        program.types.HasSlot pending.type ∧ program.invokes.HasSlot pending.invoke := by
  constructor
  · intro σ initializer state program hload
    obtain ⟨first, ⟨run⟩, hrest, -⟩ := run_of_load hload
    -- neither says anything about the memory, and constants change nothing else
    rw [hrest]
    exact ⟨{ holds_of_run run with }, { isClosed_of_run run with }⟩
  · intro program hload
    obtain ⟨first, ⟨run⟩, hrest, hconstants⟩ := run_of_load hload
    rw [load_state run, hrest]
    exact deferred_hasSlots (isClosed_of_run run) hconstants

/-- The numbers of names in a loaded program have 32 bits, unless a list of names in its document
    is longer than that: none of them is another number when it is cut down to 32 bits. -/
theorem numbers_fit_of_load {σ : Type} {initializer : Initializer σ} {state : σ} {program : Program}
    (hload : (load patterns config initializer state doc).outcome = .ok program)
    {space : Namespace} (hfits : space ≠ .type → (doc.namesIn space).length ≤ idCount)
    {index : Index space} (hindex : program.names.Numbers index) :
    index.value % idCount = index.value := by
  obtain ⟨first, ⟨run⟩, hrest, -⟩ := run_of_load hload
  have hcount : program.names.count space ≤ idCount := by
    rw [hrest]
    exact names_count_le run.names_ok space hfits
  exact Nat.mod_eq_of_lt (Nat.lt_of_lt_of_le hindex.lt_count hcount)

/-- A document with repeated names of fields and callables, a struct and its type behind a
    pointer, types of lists and maps with their flavors, a primitive that takes a lambda, a
    regular expression for a type, and a constant that is left to be computed. -/
def crossReferences : Document :=
  { Document.empty with
    globalSize := 8
    typeNames := ["Point", "Nat", "Point$Boxed", "Chunk4", "Chunk8", "List", "Tree", "Map",
      "Branch", "Either"]
    fieldNames := ["x", "y", "x"]
    invokeNames := ["run", "map", "run"]
    fields := [⟨"x", "x", "Nat", false⟩, ⟨"y", "y", "Point$Boxed", true⟩]
    types :=
      [⟨"Point", none, ⟨0, 16, 16, none, "11"⟩, .struct ["x", "y"] [0, 8]⟩,
       ⟨"Chunk4", none, ⟨0, 8, 8, none, "2"⟩, .partialVector "Nat" 4⟩,
       ⟨"Chunk8", none, ⟨0, 8, 8, none, "2"⟩, .partialVector "Nat" 8⟩,
       ⟨"Tree", none, ⟨0, 8, 8, none, "2"⟩, .listTree "Nat"⟩,
       ⟨"Branch", none, ⟨0, 8, 8, none, "2"⟩, .mapTree "Nat" "Point"⟩,
       ⟨"Either", none, ⟨0, 8, 8, none, "2"⟩, .union .reference ["Point$Boxed", "Tree"]⟩]
    boxedTypes := [⟨"Point$Boxed", "Point", "Point"⟩]
    listFlavors := [⟨"List", "Either", "Nat", "Chunk4", "Chunk8", "Tree"⟩]
    mapFlavors := [⟨"Map", "Either", "Nat", "Point", "Point", "Branch"⟩]
    invokes :=
      [⟨"run", "run", "", .unknown, .unknown, false, [], "Nat",
        .body ⟨true, 0, 0, "", 0, 0, [], .null, []⟩⟩,
       ⟨"map", "map", "", .unknown, .unknown, false, [⟨"list", "List"⟩], "List",
        .primitive ⟨some "List", "map", [("T", "Nat")], [("f", ⟨"run", []⟩)]⟩⟩]
    validators := [⟨"String", ⟨"a", "a"⟩⟩]
    constants := [⟨0, "run", "Nat"⟩] }

theorem references_of_crossReferences :
    ∃ program, (load .basic .standard .deferring [] crossReferences).outcome = .ok program ∧
      program.Holds .standard crossReferences ∧ program.IsClosed ∧
      program.invokes.get? 0 = none ∧ (program.invokes.get? 2).isSome ∧
      (load .basic .standard .deferring [] crossReferences).state = [⟨0, ⟨2⟩, .nat⟩] ∧
      ∀ pending ∈ (load .basic .standard .deferring [] crossReferences).state,
        program.types.HasSlot pending.type ∧ program.invokes.HasSlot pending.invoke := by
  have hok : (load .basic .standard .deferring [] crossReferences).outcome.toOption.any
      (fun program =>
      (program.invokes.get? 0).isNone && (program.invokes.get? 2).isSome) = true := by
    decide +kernel
  obtain ⟨program, hload, htest⟩ := Except.exists_of_any hok
  obtain ⟨hrepeated, hlast⟩ := Bool.and_eq_true_iff.mp htest
  obtain ⟨hloaded, hdeferred⟩ := references_of_load .basic .standard crossReferences
  obtain ⟨hholds, hclosed⟩ := hloaded .deferring [] program hload
  have hstate : (load .basic .standard .deferring [] crossReferences).state = [⟨0, ⟨2⟩, .nat⟩] := by
    decide +kernel
  exact ⟨program, hload, hholds, hclosed, Option.isNone_iff_eq_none.mp hrepeated, hlast, hstate,
    hdeferred program hload⟩

end Load

end ProgramImage
