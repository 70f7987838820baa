import ProgramImage.Proofs.References
import ProgramImage.Proofs.Settings

/-!
# Flavors and their records

A record of a flavor names types. It is accepted when the names stand for loaded types of the right
kinds, and then it gives the flavor with these types.

## Main definitions

* `ListFlavorRecord.Gives` and `MapFlavorRecord.Gives` say which flavor a record stands for.

## Main statements

* `Load.listFlavor_eq_ok_iff` and `Load.mapFlavor_eq_ok_iff` are the records that are accepted.
-/

namespace ProgramImage

/-! ### What a record stands for -/

/-- The type that the lists of a record have entries of. -/
def ListFlavorRecord.key? (record : ListFlavorRecord) (registry : NameRegistry) : Option TypeId :=
  registry.lookup .type record.entry

/-- The types that the maps of a record have entries of. -/
def MapFlavorRecord.key? (record : MapFlavorRecord) (registry : NameRegistry) :
    Option EntryTypes :=
  match registry.lookup .type record.key, registry.lookup .type record.value with
  | some key, some value => some ⟨key, value⟩
  | _, _ => none

/-- A record stands for a flavor: its names are those of the types in the flavor. The type of the
    entries is loaded, and so are two chunks of four and of eight entries and a tree of a list. -/
structure ListFlavorRecord.Gives (record : ListFlavorRecord) (registry : NameRegistry)
    (types : TypeTable) (flavor : ListFlavor) : Prop where
  list : registry.lookup .type record.list = some flavor.list
  repr : registry.lookup .type record.repr = some flavor.repr
  entry : registry.lookup .type record.entry = some flavor.entry
  vector4 : registry.lookup .type record.vector4 = some flavor.vector4
  vector8 : registry.lookup .type record.vector8 = some flavor.vector8
  tree : registry.lookup .type record.tree = some flavor.tree
  entry_loaded : ∃ desc, types.type? flavor.entry = some desc
  vector4_loaded : ∃ desc entry, types.type? flavor.vector4 = some desc ∧
    desc.kind = .partialVector entry 4
  vector8_loaded : ∃ desc entry, types.type? flavor.vector8 = some desc ∧
    desc.kind = .partialVector entry 8
  tree_loaded : ∃ desc entry, types.type? flavor.tree = some desc ∧ desc.kind = .listTree entry

/-- A record stands for a flavor: its names are those of the types in the flavor. The types of the
    keys, of the values and of the pairs are loaded, and so is a tree of a map. -/
structure MapFlavorRecord.Gives (record : MapFlavorRecord) (registry : NameRegistry)
    (types : TypeTable) (flavor : MapFlavor) : Prop where
  map : registry.lookup .type record.map = some flavor.map
  repr : registry.lookup .type record.repr = some flavor.repr
  key : registry.lookup .type record.key = some flavor.key
  value : registry.lookup .type record.value = some flavor.value
  tuple : registry.lookup .type record.tuple = some flavor.tuple
  tree : registry.lookup .type record.tree = some flavor.tree
  key_loaded : ∃ desc, types.type? flavor.key = some desc
  value_loaded : ∃ desc, types.type? flavor.value = some desc
  tuple_loaded : ∃ desc, types.type? flavor.tuple = some desc
  tree_loaded : ∃ desc key value, types.type? flavor.tree = some desc ∧
    desc.kind = .mapTree key value

section Records

variable {registry : NameRegistry} {types : TypeTable} {context : String}

theorem ListFlavorRecord.Gives.key?_eq {record : ListFlavorRecord} {flavor : ListFlavor}
    (h : record.Gives registry types flavor) : record.key? registry = some flavor.entry :=
  h.entry

theorem MapFlavorRecord.Gives.key?_eq {record : MapFlavorRecord} {flavor : MapFlavor}
    (h : record.Gives registry types flavor) : record.key? registry = some flavor.entryTypes := by
  unfold MapFlavorRecord.key?
  rw [h.key, h.value]
  rfl

namespace Load

/-- In a table whose types know their numbers, a type that is loaded has the number of its
    name. -/
theorem loadedType_eq_ok_iff_lookup (htypes : types.IsPlaced) {name : String}
    {desc : TypeDescriptor} :
    loadedType registry types name context = .ok desc ↔
      registry.lookup .type name = some desc.tid ∧ types.type? desc.tid = some desc := by
  rw [loadedType_eq_ok_iff]
  constructor
  · rintro ⟨tid, hlookup, hdesc⟩
    obtain rfl := TypeTable.tid_eq htypes hdesc
    exact ⟨hlookup, hdesc⟩
  · rintro ⟨hlookup, hdesc⟩
    exact ⟨desc.tid, hlookup, hdesc⟩

theorem chunk_eq_ok_iff (htypes : types.IsPlaced) {name : String} {capacity : Nat}
    {tid : TypeId} :
    chunk registry types name capacity context = .ok tid ↔
      registry.lookup .type name = some tid ∧
        ∃ desc entry, types.type? tid = some desc ∧ desc.kind = .partialVector entry capacity := by
  unfold chunk
  rw [Except.bind_eq_ok]
  simp only [loadedType_eq_ok_iff_lookup htypes]
  constructor
  · rintro ⟨desc, ⟨hlookup, hdesc⟩, h⟩
    split at h
    · next entry found hkind =>
      split at h
      · next hfound =>
        cases h
        exact ⟨hlookup, desc, entry, hdesc, by rw [hkind, hfound]⟩
      · cases h
    · cases h
  · rintro ⟨hlookup, desc, entry, hdesc, hkind⟩
    obtain rfl := TypeTable.tid_eq htypes hdesc
    refine ⟨desc, ⟨hlookup, hdesc⟩, ?_⟩
    rw [hkind]
    exact if_pos rfl

/-- A record of a list type is resolved to the flavor that it stands for. -/
theorem listFlavor_eq_ok_iff (htypes : types.IsPlaced) {record : ListFlavorRecord}
    {flavor : ListFlavor} :
    listFlavor registry types record = .ok flavor ↔ record.Gives registry types flavor := by
  unfold listFlavor resolveType
  simp only [Except.bind_eq_ok, resolve_eq_ok_iff, loadedType_eq_ok_iff_lookup htypes,
    chunk_eq_ok_iff htypes]
  constructor
  · rintro ⟨list, hlist, repr, hrepr, entry, ⟨hentry, hentryLoaded⟩, vector4,
      ⟨hvector4, hloaded4⟩, vector8, ⟨hvector8, hloaded8⟩, tree, ⟨htree, htreeLoaded⟩, h⟩
    split at h
    · next treeEntry hkind =>
      cases h
      exact ⟨hlist, hrepr, hentry, hvector4, hvector8, htree, ⟨entry, hentryLoaded⟩, hloaded4,
        hloaded8, tree, treeEntry, htreeLoaded, hkind⟩
    · cases h
  · intro h
    obtain ⟨entry, hentryLoaded⟩ := h.entry_loaded
    obtain ⟨tree, treeEntry, htreeLoaded, hkind⟩ := h.tree_loaded
    have hentryTid := TypeTable.tid_eq htypes hentryLoaded
    have htreeTid := TypeTable.tid_eq htypes htreeLoaded
    refine ⟨flavor.list, h.list, flavor.repr, h.repr, entry, ?_, flavor.vector4,
      ⟨h.vector4, h.vector4_loaded⟩, flavor.vector8, ⟨h.vector8, h.vector8_loaded⟩, tree, ?_, ?_⟩
    · rw [hentryTid]
      exact ⟨h.entry, hentryLoaded⟩
    · rw [htreeTid]
      exact ⟨h.tree, htreeLoaded⟩
    · rw [hkind, hentryTid, htreeTid]
      rfl

/-- A record of a map type is resolved to the flavor that it stands for. -/
theorem mapFlavor_eq_ok_iff (htypes : types.IsPlaced) {record : MapFlavorRecord}
    {flavor : MapFlavor} :
    mapFlavor registry types record = .ok flavor ↔ record.Gives registry types flavor := by
  unfold mapFlavor resolveType
  simp only [Except.bind_eq_ok, resolve_eq_ok_iff, loadedType_eq_ok_iff_lookup htypes]
  constructor
  · rintro ⟨map, hmap, repr, hrepr, key, ⟨hkey, hkeyLoaded⟩, value, ⟨hvalue, hvalueLoaded⟩, tuple,
      ⟨htuple, htupleLoaded⟩, tree, ⟨htree, htreeLoaded⟩, h⟩
    split at h
    · next treeKey treeValue hkind =>
      cases h
      exact ⟨hmap, hrepr, hkey, hvalue, htuple, htree, ⟨key, hkeyLoaded⟩, ⟨value, hvalueLoaded⟩,
        ⟨tuple, htupleLoaded⟩, tree, treeKey, treeValue, htreeLoaded, hkind⟩
    · cases h
  · intro h
    obtain ⟨key, hkeyLoaded⟩ := h.key_loaded
    obtain ⟨value, hvalueLoaded⟩ := h.value_loaded
    obtain ⟨tuple, htupleLoaded⟩ := h.tuple_loaded
    obtain ⟨tree, treeKey, treeValue, htreeLoaded, hkind⟩ := h.tree_loaded
    have hkeyTid := TypeTable.tid_eq htypes hkeyLoaded
    have hvalueTid := TypeTable.tid_eq htypes hvalueLoaded
    have htupleTid := TypeTable.tid_eq htypes htupleLoaded
    have htreeTid := TypeTable.tid_eq htypes htreeLoaded
    refine ⟨flavor.map, h.map, flavor.repr, h.repr, key, ?_, value, ?_, tuple, ?_, tree, ?_, ?_⟩
    · rw [hkeyTid]
      exact ⟨h.key, hkeyLoaded⟩
    · rw [hvalueTid]
      exact ⟨h.value, hvalueLoaded⟩
    · rw [htupleTid]
      exact ⟨h.tuple, htupleLoaded⟩
    · rw [htreeTid]
      exact ⟨h.tree, htreeLoaded⟩
    · rw [hkind, hkeyTid, hvalueTid, htupleTid, htreeTid]
      rfl

end Load

end Records

end ProgramImage
