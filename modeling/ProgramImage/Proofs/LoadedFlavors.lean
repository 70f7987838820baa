import ProgramImage.Pattern.Language
import ProgramImage.Proofs.DeclarationOrder
import ProgramImage.Proofs.FlavorRecords

/-!
# Flavors of a loaded program

The flavors of a loaded program are those of the records of its document: there is one flavor for
each record, and it holds the types that the names of the record stand for. A further record makes
a load fail when it repeats the types of another one, or when one of its names does not stand for a
type of the kind that is asked for; otherwise the load succeeds as before.

## Main statements

* `Load.capacity_of_run` says which capacities chunks have.
* `Load.listFlavors_of_run` and `Load.mapFlavors_of_run` find the records behind flavors.
* `Load.exists_load_listFlavor_iff` and `Load.exists_load_mapFlavor_iff` add a record to a document.
* `Load.flavors_of_load` says all of this of a loaded program.
-/

namespace ProgramImage

namespace Load

variable {patterns : PatternLanguage} {config : LoadConfig} {registry : NameRegistry}
  {doc : Document} {program : Program}

/-! ### Chunks -/

theorem typeKind_capacity {key : String} {record : TypeKindRecord} {entry : TypeId}
    {capacity : Nat} (h : typeKind registry key record = .ok (.partialVector entry capacity)) :
    capacity = 4 ∨ capacity = 8 := by
  cases record with
  | register | bigNum => cases h
  | struct fields offsets | ref fields offsets =>
    obtain ⟨layout, -, hpure⟩ := Except.bind_eq_ok.mp h
    cases hpure
  | partialVector name declared =>
    simp only [typeKind] at h
    split at h
    · cases h
    · next hdeclared =>
      obtain ⟨tid, -, hpure⟩ := Except.bind_eq_ok.mp h
      cases hpure
      by_cases hfour : declared = 4
      · subst hfour
        exact .inl rfl
      · by_cases height : declared = 8
        · subst height
          exact .inr rfl
        · exact absurd ⟨hfour, height⟩ hdeclared
  | listTree name =>
    obtain ⟨tid, -, hpure⟩ := Except.bind_eq_ok.mp h
    cases hpure
  | mapTree name value =>
    obtain ⟨keyType, -, h⟩ := Except.bind_eq_ok.mp h
    obtain ⟨valueType, -, hpure⟩ := Except.bind_eq_ok.mp h
    cases hpure
  | union form members =>
    obtain ⟨tids, -, hpure⟩ := Except.bind_eq_ok.mp h
    cases hpure

/-- No reserved type and no struct behind a pointer is a chunk, and a declared one has four or
    eight entries. -/
theorem capacity_of_run (run : Run patterns config doc program) {tid entry : TypeId}
    {capacity : Nat} {desc : TypeDescriptor} (hdesc : program.types.type? tid = some desc)
    (hkind : desc.kind = .partialVector entry capacity) : capacity = 4 ∨ capacity = 8 := by
  rcases types_origin run.types_ok run.boxedTypes_ok hdesc with
    hreserved | ⟨record, -, hresolved⟩ | ⟨record, -, hresolved⟩
  · have hnone : ∀ desc ∈ reservedDescriptors, desc.kind.name ≠ "PartialVector" := by
      decide
    refine absurd ?_ (hnone desc (List.mem_of_getElem? hreserved))
    rw [hkind]
    rfl
  · obtain ⟨-, hdeclared, -⟩ := typeDescriptor_eq_ok hresolved
    rw [hkind] at hdeclared
    exact typeKind_capacity hdeclared
  · obtain ⟨own, found, wrapped, layout, -, -, -, -, rfl⟩ := boxedType_eq_ok_iff.mp hresolved
    cases hkind

/-! ### Records behind flavors -/

theorem isPlaced_of_run (run : Run patterns config doc program) : program.types.IsPlaced :=
  types_isPlaced run.types_ok run.boxedTypes_ok

theorem lists_run (run : Run patterns config doc program) :
    KeyedRun (listFlavor program.names program.types) ListFlavor.entry [] doc.listFlavors
      program.flavors.lists := by
  obtain ⟨hlists, -⟩ := listFlavors_eq_ok_iff.mp run.listFlavors_ok
  obtain ⟨-, hkept⟩ := mapFlavors_eq_ok_iff.mp run.mapFlavors_ok
  rw [hkept]
  exact hlists

theorem maps_run (run : Run patterns config doc program) :
    KeyedRun (mapFlavor program.names program.types) MapFlavor.entryTypes [] doc.mapFlavors
      program.flavors.maps := by
  obtain ⟨-, hkept⟩ := listFlavors_eq_ok_iff.mp run.listFlavors_ok
  obtain ⟨hmaps, -⟩ := mapFlavors_eq_ok_iff.mp run.mapFlavors_ok
  rw [hkept] at hmaps
  exact hmaps

theorem listFlavor_key? {types : TypeTable} (htypes : types.IsPlaced) (record : ListFlavorRecord)
    (flavor : ListFlavor) (h : listFlavor registry types record = .ok flavor) :
    record.key? registry = some flavor.entry :=
  ((listFlavor_eq_ok_iff htypes).mp h).key?_eq

theorem mapFlavor_key? {types : TypeTable} (htypes : types.IsPlaced) (record : MapFlavorRecord)
    (flavor : MapFlavor) (h : mapFlavor registry types record = .ok flavor) :
    record.key? registry = some flavor.entryTypes :=
  ((mapFlavor_eq_ok_iff htypes).mp h).key?_eq

end Load

/-- What is found under a key after a run from nothing is what the one record with this key
    gives, and something is found under the key of every record. -/
theorem KeyedRun.of_empty {ρ ε κ α : Type} [DecidableEq κ] [KeyOrder κ]
    {resolve : ρ → Except ε α} {key : α → κ} {records : List ρ} {later : List (κ × α)}
    (run : KeyedRun resolve key [] records later) {key? : ρ → Option κ}
    (hkey : ∀ record item, resolve record = .ok item → key? record = some (key item)) (k : κ) :
    ((Keyed.get? k later).isSome ↔ ∃ record ∈ records, key? record = some k) ∧
      ∀ item, Keyed.get? k later = some item →
        ∃ record, records.filter (key? · = some k) = [record] ∧ resolve record = .ok item := by
  have hfound : ∀ item, Keyed.get? k later = some item →
      ∃ record, records.filter (key? · = some k) = [record] ∧ resolve record = .ok item := by
    intro item hitem
    rcases (run.get?_iff hkey).mp hitem with ⟨hold, -⟩ | ⟨-, hrecord⟩
    · cases hold
    · exact hrecord
  refine ⟨⟨?_, ?_⟩, hfound⟩
  · intro hsome
    obtain ⟨item, hitem⟩ := Option.isSome_iff_exists.mp hsome
    obtain ⟨record, hfilter, -⟩ := hfound item hitem
    have hmem : record ∈ records.filter (key? · = some k) := by
      rw [hfilter]
      exact List.mem_singleton_self record
    obtain ⟨hrecord, hsame⟩ := List.mem_filter.mp hmem
    exact ⟨record, hrecord, of_decide_eq_true hsame⟩
  · rintro ⟨record, hrecord, hsame⟩
    obtain ⟨item, hitem, hentry⟩ := run.registered hrecord
    rw [hkey record item hitem] at hsame
    rw [← Option.some.inj hsame, hentry]
    rfl

namespace Load

variable {patterns : PatternLanguage} {config : LoadConfig} {doc : Document} {program : Program}

/-- There is a flavor for lists of a type just when there is a record for it. This is the only
    one then, and stands for the flavor. -/
theorem listFlavors_of_run (run : Run patterns config doc program) (entry : TypeId) :
    ((program.flavors.list? entry).isSome ↔
      ∃ record ∈ doc.listFlavors, record.key? program.names = some entry) ∧
    ∀ flavor, program.flavors.list? entry = some flavor →
      ∃ record, doc.listFlavors.filter (·.key? program.names = some entry) = [record] ∧
        record.Gives program.names program.types flavor := by
  have htypes := isPlaced_of_run run
  obtain ⟨hsome, hfound⟩ := (lists_run run).of_empty (listFlavor_key? htypes) entry
  refine ⟨hsome, ?_⟩
  intro flavor hflavor
  obtain ⟨record, hfilter, hresolved⟩ := hfound flavor hflavor
  exact ⟨record, hfilter, (listFlavor_eq_ok_iff htypes).mp hresolved⟩

/-- There is a flavor for maps between two types just when there is a record for them. This is
    the only one then, and stands for the flavor. -/
theorem mapFlavors_of_run (run : Run patterns config doc program) (key value : TypeId) :
    ((program.flavors.map? key value).isSome ↔
      ∃ record ∈ doc.mapFlavors, record.key? program.names = some ⟨key, value⟩) ∧
    ∀ flavor, program.flavors.map? key value = some flavor →
      ∃ record, doc.mapFlavors.filter (·.key? program.names = some ⟨key, value⟩) = [record] ∧
        record.Gives program.names program.types flavor := by
  have htypes := isPlaced_of_run run
  obtain ⟨hsome, hfound⟩ := (maps_run run).of_empty (mapFlavor_key? htypes) ⟨key, value⟩
  refine ⟨hsome, ?_⟩
  intro flavor hflavor
  obtain ⟨record, hfilter, hresolved⟩ := hfound flavor hflavor
  exact ⟨record, hfilter, (mapFlavor_eq_ok_iff htypes).mp hresolved⟩

/-! ### Further records -/

variable {σ : Type} {initializer : Initializer σ} {state : σ}

/-- A constant neither looks at flavors nor changes them. -/
theorem constant_withFlavors (initializer : Initializer σ) (flavors : Flavors) (program : Program)
    (state : σ) (record : ConstantRecord) :
    (constant initializer { program with flavors } state record).outcome =
        (constant initializer program state record).outcome.map ({ · with flavors }) ∧
      (constant initializer { program with flavors } state record).state =
        (constant initializer program state record).state := by
  unfold constant
  dsimp only
  split
  · exact ⟨rfl, rfl⟩
  · split
    · exact ⟨rfl, rfl⟩
    · split <;> exact ⟨rfl, rfl⟩

/-- With other flavors a document has the same names and types, so that a load succeeds as before
    when these flavors are registered. -/
theorem exists_load_iff {first : Program} (run : Run patterns config doc first)
    (hload : (load patterns config initializer state doc).outcome = .ok program)
    {lists : List ListFlavorRecord} {maps : List MapFlavorRecord} :
    (∃ later, (load patterns config initializer state
        { doc with listFlavors := lists, mapFlavors := maps }).outcome = .ok later) ↔
      (∃ later, KeyedRun (listFlavor first.names first.types) ListFlavor.entry [] lists later) ∧
        ∃ later, KeyedRun (mapFlavor first.names first.types) MapFlavor.entryTypes [] maps
          later := by
  constructor
  · rintro ⟨later, hlater⟩
    obtain ⟨second, ⟨other⟩, -, -⟩ := run_of_load hlater
    have hnames := Except.ok.inj (other.names_ok.symm.trans run.names_ok)
    obtain ⟨hnames, -⟩ := Prod.mk.inj hnames
    have hdeclared := other.types_ok
    have hboxed := other.boxedTypes_ok
    rw [hnames] at hdeclared hboxed
    have hsame := Except.ok.inj (hdeclared.symm.trans run.types_ok)
    rw [hsame] at hboxed
    have htypes := Except.ok.inj (hboxed.symm.trans run.boxedTypes_ok)
    have hlists := lists_run other
    have hmaps := maps_run other
    rw [hnames, htypes] at hlists hmaps
    exact ⟨⟨_, hlists⟩, _, hmaps⟩
  · rintro ⟨⟨keptLists, hlists⟩, keptMaps, hmaps⟩
    have hstatic :
        (static patterns config { doc with listFlavors := lists, mapFlavors := maps }).outcome =
        .ok { first with flavors := ⟨keptLists, keptMaps⟩ } :=
      static_eq_ok_iff.mpr ⟨{ run with
        lists := ⟨keptLists, []⟩
        listFlavors_ok := listFlavors_eq_ok_iff.mpr ⟨hlists, rfl⟩
        mapFlavors_ok := mapFlavors_eq_ok_iff.mpr ⟨hmaps, rfl⟩ }⟩
    refine ⟨{ program with flavors := ⟨keptLists, keptMaps⟩ },
      load_eq_ok_iff.mpr ⟨_, hstatic, ?_⟩⟩
    obtain ⟨other, hother, hconstants⟩ := load_eq_ok_iff.mp hload
    obtain rfl := Except.ok.inj ((static_eq_ok_iff.mpr ⟨run⟩).symm.trans hother)
    obtain ⟨houtcome, -⟩ := constants_map initializer state first
      (constant_withFlavors initializer ⟨keptLists, keptMaps⟩) doc.constants
    rw [houtcome, hconstants]
    rfl

/-- Another list flavor may stand anywhere in a document that loads, when it stands for a flavor
    and no other record is for lists of the same type. -/
theorem exists_load_listFlavor_iff
    (hload : (load patterns config initializer state doc).outcome = .ok program)
    {before after : List ListFlavorRecord} (hrecords : doc.listFlavors = before ++ after)
    (record : ListFlavorRecord) :
    (∃ later, (load patterns config initializer state
        { doc with listFlavors := before ++ record :: after }).outcome = .ok later) ↔
      (∃ flavor, record.Gives program.names program.types flavor) ∧
        ∀ other ∈ doc.listFlavors, other.key? program.names ≠ record.key? program.names := by
  obtain ⟨first, ⟨run⟩, hrest, -⟩ := run_of_load hload
  have htypes := isPlaced_of_run run
  have hperm : (before ++ record :: after).Perm (doc.listFlavors ++ [record]) := by
    rw [hrecords, List.append_assoc]
    exact (List.perm_append_singleton record after).symm.append_left before
  have hsnoc := (lists_run run).exists_snoc_iff (listFlavor_key? htypes) record
  simp only [listFlavor_eq_ok_iff htypes] at hsnoc
  rw [exists_load_iff run hload, hrest, ← hsnoc]
  constructor
  · rintro ⟨⟨later, hlater⟩, -⟩
    exact ⟨later, hlater.perm hperm⟩
  · rintro ⟨later, hlater⟩
    exact ⟨⟨later, hlater.perm hperm.symm⟩, _, maps_run run⟩

/-- Another map flavor may stand anywhere in a document that loads, when it stands for a flavor
    and no other record is for maps between the same types. -/
theorem exists_load_mapFlavor_iff
    (hload : (load patterns config initializer state doc).outcome = .ok program)
    {before after : List MapFlavorRecord} (hrecords : doc.mapFlavors = before ++ after)
    (record : MapFlavorRecord) :
    (∃ later, (load patterns config initializer state
        { doc with mapFlavors := before ++ record :: after }).outcome = .ok later) ↔
      (∃ flavor, record.Gives program.names program.types flavor) ∧
        ∀ other ∈ doc.mapFlavors, other.key? program.names ≠ record.key? program.names := by
  obtain ⟨first, ⟨run⟩, hrest, -⟩ := run_of_load hload
  have htypes := isPlaced_of_run run
  have hperm : (before ++ record :: after).Perm (doc.mapFlavors ++ [record]) := by
    rw [hrecords, List.append_assoc]
    exact (List.perm_append_singleton record after).symm.append_left before
  have hsnoc := (maps_run run).exists_snoc_iff (mapFlavor_key? htypes) record
  simp only [mapFlavor_eq_ok_iff htypes] at hsnoc
  rw [exists_load_iff run hload, hrest, ← hsnoc]
  constructor
  · rintro ⟨-, later, hlater⟩
    exact ⟨later, hlater.perm hperm⟩
  · rintro ⟨later, hlater⟩
    exact ⟨⟨_, lists_run run⟩, later, hlater.perm hperm.symm⟩

/-- The flavors of a loaded program are complete and as its document has them. A chunk has four or
    eight entries. There is a flavor for lists of a type, or for maps between two types, just when
    there is a record for them; no other record is for the same types, and the flavor is the one
    that the record stands for. The document may have a further record just when this stands for a
    flavor, and no other one is for the same types. -/
theorem flavors_of_load
    (hload : (load patterns config initializer state doc).outcome = .ok program) :
    (∀ tid desc entry capacity, program.types.type? tid = some desc →
      desc.kind = .partialVector entry capacity → capacity = 4 ∨ capacity = 8) ∧
    (∀ entry, ((program.flavors.list? entry).isSome ↔
        ∃ record ∈ doc.listFlavors, record.key? program.names = some entry) ∧
      ∀ flavor, program.flavors.list? entry = some flavor →
        ∃ record, doc.listFlavors.filter (·.key? program.names = some entry) = [record] ∧
          record.Gives program.names program.types flavor) ∧
    (∀ key value, ((program.flavors.map? key value).isSome ↔
        ∃ record ∈ doc.mapFlavors, record.key? program.names = some ⟨key, value⟩) ∧
      ∀ flavor, program.flavors.map? key value = some flavor →
        ∃ record, doc.mapFlavors.filter (·.key? program.names = some ⟨key, value⟩) = [record] ∧
          record.Gives program.names program.types flavor) ∧
    (∀ before after record, doc.listFlavors = before ++ after →
      ((∃ later, (load patterns config initializer state
          { doc with listFlavors := before ++ record :: after }).outcome = .ok later) ↔
        (∃ flavor, record.Gives program.names program.types flavor) ∧
          ∀ other ∈ doc.listFlavors,
            other.key? program.names ≠ record.key? program.names)) ∧
    ∀ before after record, doc.mapFlavors = before ++ after →
      ((∃ later, (load patterns config initializer state
          { doc with mapFlavors := before ++ record :: after }).outcome = .ok later) ↔
        (∃ flavor, record.Gives program.names program.types flavor) ∧
          ∀ other ∈ doc.mapFlavors,
            other.key? program.names ≠ record.key? program.names) := by
  refine ⟨?_, ?_, ?_, ?_, ?_⟩
  · intro tid desc entry capacity hdesc hkind
    obtain ⟨first, ⟨run⟩, hrest, -⟩ := run_of_load hload
    rw [hrest] at hdesc
    exact capacity_of_run run hdesc hkind
  · intro entry
    obtain ⟨first, ⟨run⟩, hrest, -⟩ := run_of_load hload
    rw [hrest]
    exact listFlavors_of_run run entry
  · intro key value
    obtain ⟨first, ⟨run⟩, hrest, -⟩ := run_of_load hload
    rw [hrest]
    exact mapFlavors_of_run run key value
  · intro before after record hrecords
    exact exists_load_listFlavor_iff hload hrecords record
  · intro before after record hrecords
    exact exists_load_mapFlavor_iff hload hrecords record

/-- A document with two list types and two map types has a flavor for lists of numbers. A record
    that repeats its type, or that has the chunks in the wrong order, is one too many. -/
theorem flavors_of_twoOfEach :
    ∃ program, (load .basic .standard .deferring [] twoOfEach).outcome = .ok program ∧
      (program.flavors.list? .nat).isSome ∧ (program.flavors.map? .nat .nat).isSome ∧
      (¬∃ later, (load .basic .standard .deferring [] { twoOfEach with listFlavors :=
        ⟨"Tree", "Tree", "Nat", "Chunk4", "Chunk8", "Tree"⟩ :: twoOfEach.listFlavors }).outcome =
          .ok later) ∧
      ¬∃ later, (load .basic .standard .deferring [] { twoOfEach with listFlavors :=
        ⟨"Tree", "Tree", "Bool", "Chunk8", "Chunk4", "Tree"⟩ :: twoOfEach.listFlavors }).outcome =
          .ok later := by
  have hok : (load .basic .standard .deferring [] twoOfEach).outcome.toOption.any (fun program =>
      program.names.lookup .type "Nat" == some TypeId.nat &&
        (((program.names.lookup .type "Chunk8").bind program.types.type?).map (·.kind)) ==
          some (.partialVector .nat 8)) = true := by
    decide +kernel
  obtain ⟨program, hload, htest⟩ := Except.exists_of_any hok
  obtain ⟨hname, hchunk⟩ := Bool.and_eq_true_iff.mp htest
  have hnat : program.names.lookup .type "Nat" = some TypeId.nat := eq_of_beq hname
  obtain ⟨-, hlists, hmaps, hmoreLists, -⟩ := flavors_of_load hload
  let repeated : ListFlavorRecord := ⟨"Tree", "Tree", "Nat", "Chunk4", "Chunk8", "Tree"⟩
  have hrepeated : repeated ∈ twoOfEach.listFlavors := by
    simp [repeated, twoOfEach]
  refine ⟨program, hload, ?_, ?_, ?_, ?_⟩
  · exact (hlists .nat).1.mpr ⟨repeated, hrepeated, hnat⟩
  · refine (hmaps .nat .nat).1.mpr ⟨⟨"Branch", "Branch", "Nat", "Nat", "Pair", "Branch"⟩, ?_, ?_⟩
    · simp [twoOfEach]
    · unfold MapFlavorRecord.key?
      rw [hnat]
  · intro hloads
    obtain ⟨-, hfresh⟩ := (hmoreLists [] _ repeated rfl).mp hloads
    exact hfresh repeated hrepeated rfl
  · intro hloads
    obtain ⟨⟨flavor, hgives⟩, -⟩ := (hmoreLists [] _ _ rfl).mp hloads
    -- the chunk of eight entries has the name of one of four
    obtain ⟨desc, entry, hdesc, hkind⟩ := hgives.vector4_loaded
    have hfound := eq_of_beq hchunk
    rw [hgives.vector4, Option.bind_some, hdesc, Option.map_some, hkind] at hfound
    cases hfound

end Load

end ProgramImage
