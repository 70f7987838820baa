import ProgramImage.Proofs.NameLists

/-!
# Numbers of type names

The type names of a program are all different, and the reserved ones come first. So a
type name and its number determine each other, and a number below that of the first
declared type belongs to the same name in every program.

## Main definitions

* `NameRegistry.TypesNumbered` is what the type namespace keeps while names are
  numbered.

## Main statements

* `NameRegistry.TypesNumbered.lookup_eq_some_iff` ties a type name to its number.
* `NameRegistry.TypesNumbered.lookup_reserved_iff` says which names have reserved
  numbers.
* `Load.names_typesNumbered` holds of the names of every load, and `Load.names_types_mem_iff`
  says which type names are numbered.
* `Load.names_count_le` says that numbers of 32 bits suffice, unless a list of names is too long.
-/

namespace ProgramImage

namespace NameTable

/-- Among names that are all different, a name is found where it stands. -/
theorem find?_eq_some_iff {table : NameTable} (h : table.names.toList.Nodup) {name : String}
    {k : Nat} : table.find? name = some k ↔ table.names[k]? = some name := by
  rw [find?_eq, lastPlaceBelow_eq_some_iff]
  constructor
  · exact fun hk => hk.2.1
  · intro hname
    obtain ⟨hk, -⟩ := Array.getElem?_eq_some_iff.mp hname
    refine ⟨hk, hname, ?_⟩
    intro j hj hb hsame
    rw [← Array.getElem?_toList] at hname hsame
    have hkj : k = j := (List.getElem?_inj (by simpa using hk) h).mp (hname.trans hsame.symm)
    omega

@[simp] theorem names_ofList (names : List String) : (ofList names).names.toList = names :=
  names_foldl_push empty names

end NameTable

theorem nodup_reservedNames : reservedNames.Nodup := by
  decide

/-- A reserved identifier belongs to the name at its place. -/
theorem reservedId?_eq_some_iff {name : String} {tid : TypeId} :
    reservedId? name = some tid ↔ reservedNames[tid.value]? = some name := by
  unfold reservedId?
  rw [Option.map_eq_some_iff]
  constructor
  · rintro ⟨i, hfind, rfl⟩
    obtain ⟨hi, hname, -⟩ := List.findIdx?_eq_some_iff_getElem.mp hfind
    rw [List.getElem?_eq_getElem hi, eq_of_beq hname]
  · intro hname
    refine ⟨tid.value, ?_, rfl⟩
    obtain ⟨hi, hget⟩ := List.getElem?_eq_some_iff.mp hname
    refine List.findIdx?_eq_some_iff_getElem.mpr ⟨hi, by simpa using hget, ?_⟩
    intro j hj hsame
    have hplace : reservedNames[j]? = reservedNames[tid.value]? := by
      rw [hname, List.getElem?_eq_getElem (by omega), eq_of_beq hsame]
    have hji : j = tid.value := (List.getElem?_inj (by omega) nodup_reservedNames).mp hplace
    omega

namespace NameRegistry

/-- The type names are all different and start with the reserved ones. -/
structure TypesNumbered (registry : NameRegistry) : Prop where
  nodup : registry.types.names.toList.Nodup
  reserved_first : reservedNames <+: registry.types.names.toList

variable {registry later : NameRegistry}

theorem TypesNumbered.of_table_eq (h : registry.TypesNumbered)
    (htable : later.table .type = registry.table .type) : later.TypesNumbered := by
  have htypes : later.types = registry.types := htable
  constructor
  · rw [htypes]
    exact h.nodup
  · rw [htypes]
    exact h.reserved_first

/-- There are at least as many type names as reserved ones. -/
theorem TypesNumbered.le_count (h : registry.TypesNumbered) :
    reservedNames.length ≤ registry.count .type := by
  rw [count, NameTable.size, ← Array.length_toList]
  exact h.reserved_first.length_le

theorem typesNumbered_initial : initial.TypesNumbered where
  nodup := by
    rw [initial, NameTable.names_ofList]
    exact nodup_reservedNames
  reserved_first := by
    refine ⟨[], ?_⟩
    rw [initial, NameTable.names_ofList, List.append_nil]

/-- A type name and its number determine each other. -/
theorem TypesNumbered.lookup_eq_some_iff (h : registry.TypesNumbered) {name : String}
    {tid : TypeId} :
    registry.lookup .type name = some tid ↔ registry.types.names[tid.value]? = some name := by
  unfold lookup table
  rw [Option.map_eq_some_iff, ← NameTable.find?_eq_some_iff h.nodup]
  constructor
  · rintro ⟨k, hk, rfl⟩
    exact hk
  · intro hk
    exact ⟨tid.value, hk, rfl⟩

/-- The names of reserved types are numbered as they are in every program. -/
theorem TypesNumbered.lookup_reserved_iff (h : registry.TypesNumbered) {name : String}
    {tid : TypeId} (htid : tid.isReserved) :
    registry.lookup .type name = some tid ↔ reservedId? name = some tid := by
  have hlt : tid.value < reservedNames.length := of_decide_eq_true htid
  obtain ⟨declared, hnames⟩ := h.reserved_first
  rw [h.lookup_eq_some_iff, reservedId?_eq_some_iff, ← Array.getElem?_toList, ← hnames,
    List.getElem?_append_left hlt]

theorem TypesNumbered.push (h : registry.TypesNumbered) {name : String}
    (hnew : registry.lookup .type name = none) :
    (registry.push .type name).2.TypesNumbered := by
  have hnames : (registry.push .type name).2.types.names.toList =
      registry.types.names.toList ++ [name] := NameTable.names_foldl_push registry.types [name]
  constructor
  · rw [hnames, List.nodup_append]
    refine ⟨h.nodup, by simp, ?_⟩
    rintro old hold _ hname rfl
    obtain rfl : old = name := List.mem_singleton.mp hname
    obtain ⟨k, hk⟩ := List.mem_iff_getElem?.mp hold
    rw [Array.getElem?_toList] at hk
    have hfound : registry.lookup .type old = some (⟨k⟩ : TypeId) := h.lookup_eq_some_iff.mpr hk
    rw [hfound] at hnew
    cases hnew
  · rw [hnames]
    exact h.reserved_first.trans (List.prefix_append _ _)

/-- A type name that can be numbered is numbered afterwards, with those from before. -/
theorem internType_mem_iff {name : String} {tid : TypeId}
    (h : (registry.internType name).1 = .ok tid) (other : String) :
    other ∈ (registry.internType name).2.names .type ↔
      other ∈ registry.names .type ∨ other = name := by
  unfold internType at h ⊢
  split
  · next found hfound =>
    -- a name that is found already is one of those from before
    have hname : name ∈ registry.names .type :=
      Array.mem_of_getElem? (resolve_of_lookup hfound)
    constructor
    · exact .inl
    · rintro (hother | rfl)
      · exact hother
      · exact hname
  · next hnone =>
    rw [hnone] at h
    split
    · next hfull =>
      rw [if_pos hfull] at h
      cases h
    · have hnames : ((registry.push .type name).2.names .type).toList =
          (registry.names .type).toList ++ [name] :=
        NameTable.names_foldl_push registry.types [name]
      rw [← Array.mem_toList_iff, hnames, List.mem_append, Array.mem_toList_iff,
        List.mem_singleton]

theorem TypesNumbered.internType (h : registry.TypesNumbered) (name : String) :
    (registry.internType name).2.TypesNumbered := by
  unfold NameRegistry.internType
  split
  · exact h
  · next hnew =>
    split
    · exact h
    · exact h.push hnew

end NameRegistry

namespace Load

variable {registry later : NameRegistry}

theorem internTypes_typesNumbered {list : List String} (hnames : registry.TypesNumbered)
    (h : (internTypes registry list).outcome = .ok later) : later.TypesNumbered := by
  unfold internTypes at h
  rw [Traced.outcome_foldlM] at h
  refine Except.foldlM_keeps ?_ hnames h
  intro mid name next _ hmid hnext
  rw [Traced.outcome_bind] at hnext
  obtain ⟨-, -, hpure⟩ := Except.bind_eq_ok.mp hnext
  cases hpure
  exact hmid.internType name

/-- Numbered type names are those that were numbered before and those of the list. -/
theorem internTypes_mem_iff {list : List String}
    (h : (internTypes registry list).outcome = .ok later) (name : String) :
    name ∈ later.names .type ↔ name ∈ registry.names .type ∨ name ∈ list := by
  unfold internTypes at h
  rw [Traced.outcome_foldlM] at h
  induction list generalizing registry with
  | nil =>
    cases h
    simp
  | cons first rest ih =>
    rw [List.foldlM_cons] at h
    obtain ⟨mid, hmid, hrest⟩ := Except.bind_eq_ok.mp h
    rw [Traced.outcome_bind] at hmid
    obtain ⟨tid, hlift, hpure⟩ := Except.bind_eq_ok.mp hmid
    cases hpure
    have hfirst : name ∈ (registry.internType first).2.names .type ↔
        name ∈ registry.names .type ∨ name = first :=
      NameRegistry.internType_mem_iff (Traced.outcome_lift_eq_ok.mp hlift) name
    rw [ih hrest, hfirst, List.mem_cons, or_assoc]

/-- Only the first list of a document numbers names of types. -/
theorem names_typeTable {doc : Document} {fields : FieldTable}
    (h : (names doc).outcome = .ok (later, fields)) :
    ∃ typed, (internTypes .initial doc.typeNames).outcome = .ok typed ∧
      later.table .type = typed.table .type := by
  obtain ⟨typed, fielded, htyped, rfl, -, rfl⟩ := names_eq_ok_iff.mp h
  refine ⟨typed, htyped, ?_⟩
  rw [NameRegistry.table_pushAll_of_ne (by decide), NameRegistry.table_pushAll_of_ne (by decide),
    NameRegistry.table_pushAll_of_ne (by decide), NameRegistry.table_pushAll_of_ne (by decide)]

/-- The names of every load are numbered as the reserved types ask for. -/
theorem names_typesNumbered {doc : Document} {fields : FieldTable}
    (h : (names doc).outcome = .ok (later, fields)) : later.TypesNumbered := by
  obtain ⟨typed, htyped, htable⟩ := names_typeTable h
  have hnumbered : typed.TypesNumbered :=
    internTypes_typesNumbered NameRegistry.typesNumbered_initial htyped
  exact hnumbered.of_table_eq htable

/-- The numbered type names of a load are the reserved ones and those of the document. -/
theorem names_types_mem_iff {doc : Document} {fields : FieldTable}
    (h : (names doc).outcome = .ok (later, fields)) (name : String) :
    name ∈ later.names .type ↔ name ∈ reservedNames ∨ name ∈ doc.typeNames := by
  obtain ⟨typed, htyped, htable⟩ := names_typeTable h
  have hinitial : (NameRegistry.initial.names .type).toList = reservedNames :=
    NameTable.names_ofList reservedNames
  rw [NameRegistry.names, htable, ← NameRegistry.names, internTypes_mem_iff htyped,
    ← Array.mem_toList_iff, hinitial]

theorem internTypes_count_le {list : List String}
    (hle : registry.count .type ≤ TypeId.max + 1)
    (h : (internTypes registry list).outcome = .ok later) :
    later.count .type ≤ TypeId.max + 1 := by
  unfold internTypes at h
  rw [Traced.outcome_foldlM] at h
  refine Except.foldlM_keeps (P := fun mid => mid.count .type ≤ TypeId.max + 1) ?_ hle h
  intro mid name next _ hmid hnext
  rw [Traced.outcome_bind] at hnext
  obtain ⟨-, -, hpure⟩ := Except.bind_eq_ok.mp hnext
  cases hpure
  exact NameRegistry.count_internType_le hmid name

/-- No namespace has more names than there are numbers of 32 bits, unless its list has. The names of
    types are bounded in any case. -/
theorem names_count_le {doc : Document} {fields : FieldTable}
    (h : (names doc).outcome = .ok (later, fields)) (space : Namespace)
    (hfits : space ≠ .type → (doc.namesIn space).length ≤ idCount) :
    later.count space ≤ idCount := by
  by_cases hspace : space = .type
  · subst hspace
    obtain ⟨typed, htyped, htable⟩ := names_typeTable h
    have hinitial : NameRegistry.initial.count .type ≤ TypeId.max + 1 := by
      rw [NameRegistry.count, NameTable.size, ← Array.length_toList]
      show (NameTable.ofList reservedNames).names.toList.length ≤ TypeId.max + 1
      rw [NameTable.names_ofList]
      decide
    have hcount := internTypes_count_le hinitial htyped
    rw [NameRegistry.count, htable, ← NameRegistry.count]
    exact Nat.le_trans hcount (by decide)
  · rw [NameRegistry.count, NameTable.size, ← Array.length_toList]
    exact (names_namesIn h hspace).symm ▸ hfits hspace

end Load

end ProgramImage
