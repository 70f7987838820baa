import ProgramImage.Load.Phases
import ProgramImage.Proofs.Outcome

/-!
# Numbers of names

The names of one namespace are numbered in the order of their list, without a look at the
other namespaces. A look-up finds the number under which a name stands last. The names of a
document are numbered list by list, and its fields are declared in between.

## Main definitions

* `NameRegistry.Numbers` says that an identifier is the number of a name.
* `NameRegistry.pushAll` numbers a list of names.
* `Document.namesIn` is the list of a document for a namespace.

## Main statements

* `NameRegistry.lookup_eq_some_iff` says what a look-up finds.
* `NameRegistry.Numbers.lt_count` bounds the number of a name.
* `NameRegistry.names_pushAll` and `NameRegistry.table_pushAll_of_ne` say what numbering a
  list of names does.
* `Load.names_eq_ok_iff` is the success of the phase of the names.
* `Load.names_namesIn` says how the names of a document are numbered.
-/

namespace ProgramImage

/-- The last place of a name below a bound holds the name, and no later one does. -/
theorem lastPlaceBelow_eq_some_iff {names : Array String} {name : String} {bound k : Nat} :
    lastPlaceBelow names name bound = some k ↔
      k < bound ∧ names[k]? = some name ∧ ∀ j, k < j → j < bound → names[j]? ≠ some name := by
  induction bound with
  | zero => simp [lastPlaceBelow]
  | succ bound ih =>
    rw [lastPlaceBelow]
    by_cases hlast : names[bound]? = some name
    · rw [if_pos hlast]
      constructor
      · intro h
        cases h
        exact ⟨Nat.lt_succ_self _, hlast, fun j hj hb => absurd hb (by omega)⟩
      · rintro ⟨hk, -, hno⟩
        by_cases hkb : k = bound
        · rw [hkb]
        · exact absurd hlast (hno bound (by omega) (Nat.lt_succ_self _))
    · rw [if_neg hlast, ih]
      constructor
      · rintro ⟨hk, hname, hno⟩
        refine ⟨by omega, hname, ?_⟩
        intro j hj hb
        by_cases hjb : j = bound
        · rwa [hjb]
        · exact hno j hj (by omega)
      · rintro ⟨hk, hname, hno⟩
        have hkb : k ≠ bound := by
          rintro rfl
          exact hlast hname
        exact ⟨by omega, hname, fun j hj hb => hno j hj (by omega)⟩

theorem lastPlaceBelow_eq_none_iff {names : Array String} {name : String} {bound : Nat} :
    lastPlaceBelow names name bound = none ↔ ∀ j < bound, names[j]? ≠ some name := by
  induction bound with
  | zero => simp [lastPlaceBelow]
  | succ bound ih =>
    rw [lastPlaceBelow]
    by_cases hlast : names[bound]? = some name
    · rw [if_pos hlast]
      exact ⟨nofun, fun hnone => absurd hlast (hnone bound (Nat.lt_succ_self _))⟩
    · rw [if_neg hlast, ih]
      constructor
      · intro hnone j hj
        by_cases hjb : j = bound
        · rwa [hjb]
        · exact hnone j (by omega)
      · exact fun hnone j hj => hnone j (by omega)

namespace NameTable

theorem names_foldl_push (table : NameTable) (names : List String) :
    (names.foldl push table).names.toList = table.names.toList ++ names := by
  induction names generalizing table with
  | nil => rw [List.foldl_nil, List.append_nil]
  | cons name names ih =>
    rw [List.foldl_cons, ih]
    simp [push]

end NameTable

/-! ### Look-ups -/

namespace NameRegistry

variable {registry : NameRegistry} {space : Namespace} {index : Index space}

/-- An identifier is the number of a name. -/
def Numbers (registry : NameRegistry) {space : Namespace} (index : Index space) : Prop :=
  ∃ name, registry.lookup space name = some index

/-- A name is found where it stands last. -/
theorem lookup_eq_some_iff {name : String} :
    registry.lookup space name = some index ↔
      (registry.names space)[index.value]? = some name ∧
        ∀ j, index.value < j → (registry.names space)[j]? ≠ some name := by
  unfold lookup
  rw [Option.map_eq_some_iff]
  simp only [NameTable.find?_eq, lastPlaceBelow_eq_some_iff]
  constructor
  · rintro ⟨k, ⟨-, hname, hlast⟩, rfl⟩
    refine ⟨hname, ?_⟩
    intro j hj hsame
    exact hlast j hj (Array.getElem?_eq_some_iff.mp hsame).1 hsame
  · rintro ⟨hname, hlast⟩
    exact ⟨index.value, ⟨(Array.getElem?_eq_some_iff.mp hname).1, hname, fun j hj _ => hlast j hj⟩,
      rfl⟩

theorem resolve_of_lookup {name : String} (h : registry.lookup space name = some index) :
    registry.resolve index = some name :=
  (lookup_eq_some_iff.mp h).1

theorem Numbers.lt_count (h : registry.Numbers index) : index.value < registry.count space := by
  obtain ⟨name, hlookup⟩ := h
  exact (Array.getElem?_eq_some_iff.mp (resolve_of_lookup hlookup)).1

end NameRegistry

/-! ### Numbering lists -/

namespace NameRegistry

variable {registry : NameRegistry} {space other : Namespace}

/-- Numbers a list of names in one namespace, one after the other. -/
def pushAll (registry : NameRegistry) (space : Namespace) (list : List String) : NameRegistry :=
  list.foldl (fun names name => (names.push space name).2) registry

theorem table_push (registry : NameRegistry) (space other : Namespace) (name : String) :
    (registry.push space name).2.table other =
      if other = space then (registry.table space).push name else registry.table other := by
  cases space <;> cases other <;> rfl

theorem table_pushAll_of_ne (hne : other ≠ space) (list : List String) :
    (registry.pushAll space list).table other = registry.table other := by
  induction list generalizing registry with
  | nil => rfl
  | cons name list ih =>
    have hpush : (registry.push space name).2.table other = registry.table other := by
      rw [table_push, if_neg hne]
    exact ih.trans hpush

/-- Numbered names follow those that were numbered before, in the order of their list. -/
theorem names_pushAll (list : List String) :
    ((registry.pushAll space list).names space).toList =
      (registry.names space).toList ++ list := by
  have htable : (registry.pushAll space list).table space =
      list.foldl NameTable.push (registry.table space) := by
    induction list generalizing registry with
    | nil => rfl
    | cons name list ih =>
      have hpush : (registry.push space name).2.table space = (registry.table space).push name := by
        rw [table_push, if_pos rfl]
      rw [List.foldl_cons, ← hpush]
      exact ih
  unfold names
  rw [htable, NameTable.names_foldl_push]

/-- A list of names is numbered in its namespace and in no other one. -/
theorem names_pushAll_eq (list : List String) (other : Namespace) :
    ((registry.pushAll space list).names other).toList =
      (registry.names other).toList ++ if other = space then list else [] := by
  split
  · next heq =>
    subst heq
    exact names_pushAll list
  · next hne => rw [names, table_pushAll_of_ne hne, List.append_nil, names]

theorem count_push (name : String) :
    (registry.push space name).2.count space = registry.count space + 1 := by
  rw [count, table_push, if_pos rfl]
  exact Array.size_push name

/-- Type names are numbered up to the largest identifier that a header holds. -/
theorem count_internType_le (h : registry.count .type ≤ TypeId.max + 1) (name : String) :
    (registry.internType name).2.count .type ≤ TypeId.max + 1 := by
  unfold internType
  split
  · exact h
  · split
    · exact h
    · next hroom =>
      have hcount : (registry.push .type name).2.count .type = registry.count .type + 1 :=
        count_push name
      dsimp only
      omega

theorem table_internType_of_ne (hne : other ≠ .type) (name : String) :
    (registry.internType name).2.table other = registry.table other := by
  unfold internType
  split
  · rfl
  · split
    · rfl
    · exact (table_push registry .type other name).trans (if_neg hne)

end NameRegistry

namespace Load

variable {registry later : NameRegistry}

/-- Numbering a list of names always succeeds. -/
theorem pushNames_eq_ok_iff {space : Namespace} {list : List String} :
    (pushNames space registry list).outcome = .ok later ↔ later = registry.pushAll space list := by
  unfold pushNames
  rw [Traced.outcome_foldlM]
  induction list generalizing registry with
  | nil =>
    constructor
    · intro h
      cases h
      rfl
    · rintro rfl
      rfl
  | cons name list ih =>
    have hstep : (if (registry.lookup space name).isSome = true then
          (do Traced.emit (.repeatedName space name (registry.push space name).1.value)
              return (registry.push space name).2)
        else return (registry.push space name).2 : Traced NameRegistry).outcome =
          .ok (registry.push space name).2 := by
      split <;> rfl
    have hrest : registry.pushAll space (name :: list) =
        (registry.push space name).2.pushAll space list := rfl
    rw [List.foldlM_cons, hrest, ← ih, Except.bind_eq_ok]
    constructor
    · rintro ⟨mid, hmid, hlist⟩
      obtain rfl := Except.ok.inj (hstep.symm.trans hmid)
      exact hlist
    · intro hlist
      exact ⟨_, hstep, hlist⟩

theorem internTypes_table {list : List String} {other : Namespace} (hne : other ≠ .type)
    (h : (internTypes registry list).outcome = .ok later) :
    later.table other = registry.table other := by
  unfold internTypes at h
  rw [Traced.outcome_foldlM] at h
  refine Except.foldlM_keeps (P := fun mid => mid.table other = registry.table other) ?_ rfl h
  intro mid name next _ hmid hnext
  rw [Traced.outcome_bind] at hnext
  obtain ⟨-, -, hpure⟩ := Except.bind_eq_ok.mp hnext
  cases hpure
  rw [NameRegistry.table_internType_of_ne hne, hmid]

/-- The names of a document are numbered list by list, and its fields are declared by the
    numbers of the field names. -/
theorem names_eq_ok_iff {doc : Document} {fields : FieldTable} :
    (names doc).outcome = .ok (registry, fields) ↔
      ∃ typed fielded, (internTypes .initial doc.typeNames).outcome = .ok typed ∧
        fielded = (typed.pushAll .property doc.propertyNames).pushAll .field doc.fieldNames ∧
        (fill (fun _ record => Traced.lift id (field fielded record))
          (.empty (fielded.count .field)) doc.fields).outcome = .ok fields ∧
        registry =
          (fielded.pushAll .invoke doc.invokeNames).pushAll .virtualInvoke
            doc.virtualInvokeNames := by
  unfold names
  simp only [Traced.outcome_bind]
  constructor
  · intro h
    obtain ⟨-, -, h⟩ := Except.bind_eq_ok.mp h
    obtain ⟨typed, htyped, h⟩ := Except.bind_eq_ok.mp h
    obtain ⟨named, hnamed, h⟩ := Except.bind_eq_ok.mp h
    obtain ⟨fielded, hfielded, h⟩ := Except.bind_eq_ok.mp h
    obtain ⟨table, htable, h⟩ := Except.bind_eq_ok.mp h
    obtain ⟨invoked, hinvoked, h⟩ := Except.bind_eq_ok.mp h
    obtain ⟨all, hall, h⟩ := Except.bind_eq_ok.mp h
    cases h
    rw [pushNames_eq_ok_iff] at hnamed hfielded hinvoked hall
    subst hnamed hinvoked
    exact ⟨typed, fielded, htyped, hfielded, htable, hall⟩
  · rintro ⟨typed, fielded, htyped, hfielded, htable, hall⟩
    refine Except.bind_eq_ok.mpr ⟨(), rfl, ?_⟩
    refine Except.bind_eq_ok.mpr ⟨typed, htyped, ?_⟩
    refine Except.bind_eq_ok.mpr ⟨_, pushNames_eq_ok_iff.mpr rfl, ?_⟩
    refine Except.bind_eq_ok.mpr ⟨fielded, pushNames_eq_ok_iff.mpr hfielded, ?_⟩
    refine Except.bind_eq_ok.mpr ⟨fields, htable, ?_⟩
    refine Except.bind_eq_ok.mpr ⟨_, pushNames_eq_ok_iff.mpr rfl, ?_⟩
    exact Except.bind_eq_ok.mpr ⟨registry, pushNames_eq_ok_iff.mpr hall, rfl⟩

end Load

/-- The list of a document for a namespace. -/
def Document.namesIn (doc : Document) : Namespace → List String
  | .type => doc.typeNames
  | .property => doc.propertyNames
  | .field => doc.fieldNames
  | .invoke => doc.invokeNames
  | .virtualInvoke => doc.virtualInvokeNames

namespace Load

variable {registry : NameRegistry} {doc : Document} {fields : FieldTable}

/-- Outside the namespace of the types, names are numbered by their places in their list. -/
theorem names_namesIn (h : (names doc).outcome = .ok (registry, fields)) {space : Namespace}
    (hspace : space ≠ .type) : (registry.names space).toList = doc.namesIn space := by
  obtain ⟨typed, fielded, htyped, rfl, -, rfl⟩ := names_eq_ok_iff.mp h
  have hstart : (typed.names space).toList = [] := by
    rw [NameRegistry.names, internTypes_table hspace htyped]
    cases space with
    | type => exact absurd rfl hspace
    | _ => rfl
  simp only [NameRegistry.names_pushAll_eq, hstart]
  cases space with
  | type => exact absurd rfl hspace
  | _ => simp [Document.namesIn]

end Load

end ProgramImage
