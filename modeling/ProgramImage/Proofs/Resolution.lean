import ProgramImage.Proofs.NameLists
import ProgramImage.Proofs.TableRun

/-!
# What resolved declarations refer to

A declaration that is resolved refers to others by numbers only, and each of them is the
number that the registry has for a name of the document. The lemmas here say this for every
kind of declaration, together with the number that the declaration itself is stored at.

## Main definitions

* `TypeKind.typeIds`, `ListFlavor.typeIds`, `MapFlavor.typeIds` and `Invoke.typeIds` list the
  types that a declaration refers to, and `Invoke.invokeIds` the callables.
* `FieldLayout.IsResolved` says that a layout has an offset for each of its fields.

## Main statements

* `Load.boxedType_eq_ok_iff` says which structs have a type behind a pointer.
* `Load.types_origin` says where the types of a load come from.
* `Load.typeKind_refers`, `Load.listFlavor_refers`, `Load.mapFlavor_refers`,
  `Load.invoke_refers` and `Load.field_refers` say what resolved declarations refer to.
-/

namespace ProgramImage

/-! ### Identifiers in declarations -/

/-- The types that a kind of type refers to. -/
def TypeKind.typeIds : TypeKind → List TypeId
  | boxedStruct wrapped => [wrapped]
  | partialVector entry _ => [entry]
  | listTree entry => [entry]
  | mapTree key value => [key, value]
  | union _ members => members
  | register | struct _ | string | stringRepr _ | bigNum | ref _ => []

/-- The types that represent a list type, and the list type itself. -/
def ListFlavor.typeIds (flavor : ListFlavor) : List TypeId :=
  [flavor.list, flavor.repr, flavor.entry, flavor.vector4, flavor.vector8, flavor.tree]

/-- The types that represent a map type, and the map type itself. -/
def MapFlavor.typeIds (flavor : MapFlavor) : List TypeId :=
  [flavor.map, flavor.repr, flavor.key, flavor.value, flavor.tuple, flavor.tree]

/-- The types that a kind of callable refers to: its enclosing type, and those bound to
    template parameters. -/
def InvokeKind.typeIds : InvokeKind → List TypeId
  | body _ => []
  | primitive p => p.enclosingType.toList ++ p.bindings.map fun binding => binding.2

/-- The callables of the lambdas of a kind of callable. -/
def InvokeKind.invokeIds : InvokeKind → List InvokeId
  | body _ => []
  | primitive p => p.lambdas.map fun entry => entry.2.code

/-- The types that a callable refers to: those of its parameters and of its result, and
    those of its kind. -/
def Invoke.typeIds (invoke : Invoke) : List TypeId :=
  invoke.params.map Param.type ++ invoke.result :: invoke.kind.typeIds

/-- The callables that a callable refers to. -/
def Invoke.invokeIds (invoke : Invoke) : List InvokeId :=
  invoke.kind.invokeIds

/-- A layout has an offset for each of its fields, which are numbered. -/
structure FieldLayout.IsResolved (layout : FieldLayout) (registry : NameRegistry) : Prop where
  length_offsets : layout.offsets.length = layout.fields.length
  fields_numbered : ∀ id ∈ layout.fields, registry.Numbers id

namespace Load

variable {registry : NameRegistry} {types : TypeTable} {context : String}

/-! ### Names -/

theorem resolve_eq_ok_iff {space : Namespace} {name : String} {index : Index space} :
    resolve registry space name context = .ok index ↔
      registry.lookup space name = some index := by
  unfold resolve
  cases registry.lookup space name with
  | none => simp
  | some found => simp

theorem resolve_numbers {space : Namespace} {name : String} {index : Index space}
    (h : resolve registry space name context = .ok index) : registry.Numbers index :=
  ⟨name, resolve_eq_ok_iff.mp h⟩

theorem resolveTypes_numbers {list : List String} {tids : List TypeId}
    (h : resolveTypes registry list context = .ok tids) : ∀ tid ∈ tids, registry.Numbers tid := by
  intro tid htid
  obtain ⟨name, -, hname⟩ := (Except.mapM_eq_ok h).2 tid htid
  exact resolve_numbers hname

/-- A type is loaded when its name is numbered and its slot is filled. -/
theorem loadedType_eq_ok_iff {name : String} {desc : TypeDescriptor} :
    loadedType registry types name context = .ok desc ↔
      ∃ tid, registry.lookup .type name = some tid ∧ types.type? tid = some desc := by
  unfold loadedType resolveType
  rw [Except.bind_eq_ok]
  simp only [resolve_eq_ok_iff]
  constructor
  · rintro ⟨tid, htid, hdesc⟩
    refine ⟨tid, htid, ?_⟩
    split at hdesc
    · next found hfound =>
      cases hdesc
      exact hfound
    · cases hdesc
  · rintro ⟨tid, htid, hdesc⟩
    refine ⟨tid, htid, ?_⟩
    rw [hdesc]
    rfl

theorem loadedType_numbers (htypes : types.IsPlaced) {name : String} {desc : TypeDescriptor}
    (h : loadedType registry types name context = .ok desc) : registry.Numbers desc.tid := by
  obtain ⟨tid, hlookup, hdesc⟩ := loadedType_eq_ok_iff.mp h
  have hplace : desc.tid = tid := TypeTable.tid_eq htypes hdesc
  exact ⟨name, by rw [hplace, hlookup]⟩

/-! ### Types -/

theorem fieldLayout_isResolved {key : String} {fields : List String} {offsets : List UInt64}
    {layout : FieldLayout} (h : fieldLayout registry key fields offsets = .ok layout) :
    layout.IsResolved registry := by
  unfold fieldLayout at h
  by_cases hlength : fields.length ≠ offsets.length
  · rw [if_pos hlength] at h
    cases h
  · rw [if_neg hlength] at h
    obtain ⟨ids, hids, hpure⟩ := Except.bind_eq_ok.mp h
    cases hpure
    -- as many fields are resolved as there are names, which have been counted before
    obtain ⟨hcount, hmem⟩ := Except.mapM_eq_ok hids
    constructor
    · rw [List.length_map, hcount]
      omega
    · intro id hid
      obtain ⟨name, -, hname⟩ := hmem id hid
      exact resolve_numbers hname

/-- The kind of a declared type refers to numbered types, has resolved layouts, and is not
    that of a struct behind a pointer. -/
theorem typeKind_refers {key : String} {record : TypeKindRecord} {kind : TypeKind}
    (h : typeKind registry key record = .ok kind) :
    (∀ tid ∈ kind.typeIds, registry.Numbers tid) ∧
      (∀ layout ∈ kind.fieldLayout?, layout.IsResolved registry) ∧
      ∀ wrapped, kind ≠ .boxedStruct wrapped := by
  cases record with
  | register | bigNum =>
    cases h
    exact ⟨nofun, nofun, nofun⟩
  | struct fields offsets | ref fields offsets =>
    obtain ⟨layout, hlayout, hpure⟩ := Except.bind_eq_ok.mp h
    cases hpure
    refine ⟨nofun, ?_, nofun⟩
    rintro found hfound
    obtain rfl : layout = found := Option.some.inj hfound
    exact fieldLayout_isResolved hlayout
  | partialVector entry capacity =>
    simp only [typeKind] at h
    split at h
    · cases h
    · obtain ⟨tid, htid, hpure⟩ := Except.bind_eq_ok.mp h
      cases hpure
      exact ⟨by simpa [TypeKind.typeIds] using resolve_numbers htid, nofun, nofun⟩
  | listTree entry =>
    obtain ⟨tid, htid, hpure⟩ := Except.bind_eq_ok.mp h
    cases hpure
    exact ⟨by simpa [TypeKind.typeIds] using resolve_numbers htid, nofun, nofun⟩
  | mapTree keyName value =>
    obtain ⟨keyId, hkeyId, h⟩ := Except.bind_eq_ok.mp h
    obtain ⟨valueId, hvalueId, hpure⟩ := Except.bind_eq_ok.mp h
    cases hpure
    refine ⟨?_, nofun, nofun⟩
    simpa [TypeKind.typeIds] using ⟨resolve_numbers hkeyId, resolve_numbers hvalueId⟩
  | union form members =>
    obtain ⟨tids, htids, hpure⟩ := Except.bind_eq_ok.mp h
    cases hpure
    exact ⟨resolveTypes_numbers htids, nofun, nofun⟩

/-- A declared type has the number of its key, and the kind that is resolved for it. -/
theorem typeDescriptor_eq_ok {verify : Bool} {record : TypeRecord} {desc : TypeDescriptor}
    (h : typeDescriptor registry verify record = .ok desc) :
    registry.lookup .type record.key = some desc.tid ∧
      typeKind registry record.key record.kind = .ok desc.kind ∧
      sizeInfo verify record.key record.size = .ok desc.size := by
  unfold typeDescriptor at h
  obtain ⟨tid, htid, h⟩ := Except.bind_eq_ok.mp h
  obtain ⟨size, hsize, h⟩ := Except.bind_eq_ok.mp h
  obtain ⟨kind, hkind, hpure⟩ := Except.bind_eq_ok.mp h
  cases hpure
  exact ⟨resolve_eq_ok_iff.mp htid, hkind, hsize⟩

/-- A struct behind a pointer has the number of its key, and is described by the descriptor
    of a struct that is loaded. -/
theorem boxedType_eq_ok_iff {record : BoxedRecord} {desc : TypeDescriptor} :
    boxedType registry types record = .ok desc ↔
      ∃ tid found wrapped layout, registry.lookup .type record.key = some tid ∧
        registry.lookup .type record.wrapped = some found ∧ types.type? found = some wrapped ∧
        wrapped.kind = .struct layout ∧ desc = boxedDescriptor tid record.name wrapped := by
  unfold boxedType resolveType
  simp only [Except.bind_eq_ok, resolve_eq_ok_iff, loadedType_eq_ok_iff]
  constructor
  · rintro ⟨tid, htid, wrapped, ⟨found, hfound, hwrapped⟩, h⟩
    split at h
    · next layout hkind =>
      cases h
      exact ⟨tid, found, wrapped, layout, htid, hfound, hwrapped, hkind, rfl⟩
    · cases h
  · rintro ⟨tid, found, wrapped, layout, htid, hfound, hwrapped, hkind, rfl⟩
    refine ⟨tid, htid, wrapped, ⟨found, hfound, hwrapped⟩, ?_⟩
    rw [hkind]
    rfl

theorem boxedType_of_extends {later : TypeTable} (hlater : later.Extends types)
    {record : BoxedRecord} {desc : TypeDescriptor}
    (h : boxedType registry types record = .ok desc) :
    boxedType registry later record = .ok desc := by
  obtain ⟨tid, found, wrapped, layout, htid, hfound, hwrapped, hkind, hdesc⟩ :=
    boxedType_eq_ok_iff.mp h
  exact boxedType_eq_ok_iff.mpr
    ⟨tid, found, wrapped, layout, htid, hfound, hlater _ _ hwrapped, hkind, hdesc⟩

theorem boxedType_key {record : BoxedRecord} {desc : TypeDescriptor}
    (h : boxedType registry types record = .ok desc) :
    registry.lookup .type record.key = some desc.tid := by
  obtain ⟨tid, found, wrapped, layout, htid, -, -, -, rfl⟩ := boxedType_eq_ok_iff.mp h
  exact htid

/-- A type that is loaded is reserved, declared, or that of a struct behind a pointer, which is
    resolved with the table as it is in the end. -/
theorem types_origin {config : LoadConfig} {declared later : TypeTable}
    {typeRecords : List TypeRecord} {boxedRecords : List BoxedRecord}
    (htypes : (Load.types config registry typeRecords).outcome = .ok declared)
    (hboxed : (boxedTypes registry declared boxedRecords).outcome = .ok later)
    {tid : TypeId} {desc : TypeDescriptor} (h : later.type? tid = some desc) :
    reservedDescriptors[tid.value]? = some desc ∨
      (∃ record ∈ typeRecords, typeDescriptor registry config.verifyMasks record = .ok desc) ∨
      ∃ record ∈ boxedRecords, boxedType registry later record = .ok desc := by
  rcases (boxedTypes_eq_ok_iff.mp hboxed).origin h with
    hdeclared | ⟨record, hrecord, mid, hresolved, hextends⟩
  · rcases (types_eq_ok_iff.mp htypes).origin hdeclared with
      hinitial | ⟨record, hrecord, -, hresolved, -⟩
    · exact .inl ((TypeTable.type?_reserved _ tid).symm.trans hinitial)
    · exact .inr (.inl ⟨record, hrecord, hresolved⟩)
  · -- the table that the type was resolved with has only grown since
    exact .inr (.inr ⟨record, hrecord, boxedType_of_extends hextends hresolved⟩)

/-! ### Flavors -/

theorem chunk_numbers (htypes : types.IsPlaced) {name : String} {capacity : Nat} {tid : TypeId}
    (h : chunk registry types name capacity context = .ok tid) : registry.Numbers tid := by
  unfold chunk at h
  obtain ⟨desc, hdesc, h⟩ := Except.bind_eq_ok.mp h
  split at h
  · split at h
    · cases h
      exact loadedType_numbers htypes hdesc
    · cases h
  · cases h

theorem listFlavor_refers (htypes : types.IsPlaced) {record : ListFlavorRecord}
    {flavor : ListFlavor} (h : listFlavor registry types record = .ok flavor) :
    ∀ tid ∈ flavor.typeIds, registry.Numbers tid := by
  unfold listFlavor at h
  obtain ⟨list, hlist, h⟩ := Except.bind_eq_ok.mp h
  obtain ⟨repr, hrepr, h⟩ := Except.bind_eq_ok.mp h
  obtain ⟨entry, hentry, h⟩ := Except.bind_eq_ok.mp h
  obtain ⟨vector4, hvector4, h⟩ := Except.bind_eq_ok.mp h
  obtain ⟨vector8, hvector8, h⟩ := Except.bind_eq_ok.mp h
  obtain ⟨tree, htree, h⟩ := Except.bind_eq_ok.mp h
  split at h
  · cases h
    simpa [ListFlavor.typeIds] using ⟨resolve_numbers hlist, resolve_numbers hrepr,
      loadedType_numbers htypes hentry, chunk_numbers htypes hvector4,
      chunk_numbers htypes hvector8, loadedType_numbers htypes htree⟩
  · cases h

theorem mapFlavor_refers (htypes : types.IsPlaced) {record : MapFlavorRecord}
    {flavor : MapFlavor} (h : mapFlavor registry types record = .ok flavor) :
    ∀ tid ∈ flavor.typeIds, registry.Numbers tid := by
  unfold mapFlavor at h
  obtain ⟨map, hmap, h⟩ := Except.bind_eq_ok.mp h
  obtain ⟨repr, hrepr, h⟩ := Except.bind_eq_ok.mp h
  obtain ⟨key, hkey, h⟩ := Except.bind_eq_ok.mp h
  obtain ⟨value, hvalue, h⟩ := Except.bind_eq_ok.mp h
  obtain ⟨tuple, htuple, h⟩ := Except.bind_eq_ok.mp h
  obtain ⟨tree, htree, h⟩ := Except.bind_eq_ok.mp h
  split at h
  · cases h
    simpa [MapFlavor.typeIds] using ⟨resolve_numbers hmap, resolve_numbers hrepr,
      loadedType_numbers htypes hkey, loadedType_numbers htypes hvalue,
      loadedType_numbers htypes htuple, loadedType_numbers htypes htree⟩
  · cases h

/-! ### Fields and callables -/

theorem field_refers {record : FieldRecord} {desc : FieldDescriptor}
    (h : field registry record = .ok desc) :
    registry.lookup .field record.key = some desc.id ∧ registry.Numbers desc.declaredType := by
  unfold field at h
  obtain ⟨id, hid, h⟩ := Except.bind_eq_ok.mp h
  obtain ⟨declaredType, htype, hpure⟩ := Except.bind_eq_ok.mp h
  cases hpure
  exact ⟨resolve_eq_ok_iff.mp hid, resolve_numbers htype⟩

theorem primitive_refers {record : PrimitiveRecord} {found : Primitive}
    (h : primitive registry context record = .ok found) :
    (∀ tid ∈ (InvokeKind.primitive found).typeIds, registry.Numbers tid) ∧
      ∀ id ∈ (InvokeKind.primitive found).invokeIds, registry.Numbers id := by
  unfold primitive at h
  obtain ⟨enclosingType, henclosing, h⟩ := Except.bind_eq_ok.mp h
  obtain ⟨bindings, hbindings, h⟩ := Except.bind_eq_ok.mp h
  obtain ⟨lambdas, hlambdas, hpure⟩ := Except.bind_eq_ok.mp h
  cases hpure
  constructor
  · intro tid htid
    rcases List.mem_append.mp htid with hown | hbound
    · obtain ⟨name, -, hname⟩ :=
        Except.optionMapM_eq_ok henclosing tid (Option.mem_toList.mp hown)
      exact resolve_numbers hname
    · obtain ⟨binding, hbinding, rfl⟩ := List.mem_map.mp hbound
      obtain ⟨source, -, hsource⟩ := (Except.mapM_eq_ok hbindings).2 binding hbinding
      obtain ⟨type, htype, hpair⟩ := Except.bind_eq_ok.mp hsource
      cases hpair
      exact resolve_numbers htype
  · intro id hid
    obtain ⟨entry, hentry, rfl⟩ := List.mem_map.mp hid
    obtain ⟨source, -, hsource⟩ := (Except.mapM_eq_ok hlambdas).2 entry hentry
    obtain ⟨code, hcode, hpair⟩ := Except.bind_eq_ok.mp hsource
    cases hpair
    exact resolve_numbers hcode

/-- A callable has the number of its key, and a body only if one is resolved for it. It
    refers to numbered types and callables. -/
theorem invoke_refers {verify : Bool} {record : InvokeRecord} {found : Invoke}
    (h : invoke registry verify record = .ok found) :
    registry.lookup .invoke record.key = some found.id ∧
      (∀ tid ∈ found.typeIds, registry.Numbers tid) ∧
      (∀ id ∈ found.invokeIds, registry.Numbers id) ∧
      ∀ content ∈ found.body?, ∃ source, body verify record.key source = .ok content := by
  unfold invoke at h
  obtain ⟨id, hid, h⟩ := Except.bind_eq_ok.mp h
  obtain ⟨params, hparams, h⟩ := Except.bind_eq_ok.mp h
  obtain ⟨result, hresult, h⟩ := Except.bind_eq_ok.mp h
  have hkey := resolve_eq_ok_iff.mp hid
  have hparam : ∀ tid ∈ params.map Param.type, registry.Numbers tid := by
    intro tid htid
    obtain ⟨param, hparam, rfl⟩ := List.mem_map.mp htid
    obtain ⟨source, -, hsource⟩ := (Except.mapM_eq_ok hparams).2 param hparam
    obtain ⟨type, htype, hpure⟩ := Except.bind_eq_ok.mp hsource
    cases hpure
    exact resolve_numbers htype
  have htypes : ∀ kind : InvokeKind, (∀ tid ∈ kind.typeIds, registry.Numbers tid) →
      ∀ tid ∈ params.map Param.type ++ result :: kind.typeIds, registry.Numbers tid := by
    intro kind hkind tid htid
    rcases List.mem_append.mp htid with hmem | hmem
    · exact hparam tid hmem
    · rcases List.mem_cons.mp hmem with rfl | hmem
      · exact resolve_numbers hresult
      · exact hkind tid hmem
  cases hrecord : record.kind with
  | body source =>
    rw [hrecord] at h
    obtain ⟨kind, hkind, hpure⟩ := Except.bind_eq_ok.mp h
    obtain ⟨content, hcontent, rfl⟩ := Except.map_eq_ok.mp hkind
    cases hpure
    refine ⟨hkey, htypes _ nofun, nofun, ?_⟩
    rintro other hother
    obtain rfl : content = other := Option.some.inj hother
    exact ⟨source, hcontent⟩
  | primitive source =>
    rw [hrecord] at h
    obtain ⟨kind, hkind, hpure⟩ := Except.bind_eq_ok.mp h
    obtain ⟨content, hcontent, rfl⟩ := Except.map_eq_ok.mp hkind
    cases hpure
    obtain ⟨hcontentTypes, hcontentInvokes⟩ := primitive_refers hcontent
    exact ⟨hkey, htypes _ hcontentTypes, hcontentInvokes, nofun⟩

end Load

end ProgramImage
