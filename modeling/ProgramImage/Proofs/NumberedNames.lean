import Mathlib.Data.List.Induction
import Mathlib.Data.List.Perm.Subperm
import ProgramImage.Proofs.DeclaredSlots
import ProgramImage.Proofs.DistinctKeys

/-!
# Names after any operations

Names are numbered one by one, in any interleaving of the five namespaces. In the type namespace
a name keeps the number it got first, so that names and numbers determine each other. In each of
the other namespaces every occurrence gets the next number, and a name is found under its last
one. A namespace is not touched by the operations on another one, and what stands under a number
stays there.

## Main definitions

* `NameOperation` is a way to number a name, and `NameRegistry.after` the registry after a list of
  operations.
* `NameOperation.namesIn` are the names that a list of operations numbers in a namespace, and
  `NameOperation.HasRoom` says that there are identifiers for all its type names.
* `NameRegistry.NumbersTypes` and `NameRegistry.NumbersOccurrences` are the two ways in which a
  namespace follows its operations.

## Main statements

* `NameRegistry.table_run_of_ne` says that an operation looks after its own namespace.
* `NameRegistry.mem_types_after` says which type names are numbered while there is room.
* `NameRegistry.names_follow_operations` is the registry after any operations.
-/

namespace ProgramImage

/-- An operation that numbers a name. -/
inductive NameOperation where
  /-- Numbers a name in the way of its namespace. -/
  | intern (space : Namespace) (name : String)
  /-- Numbers a type name, unless it has a number. -/
  | internType (name : String)
  /-- Numbers an occurrence of a name that is no type name. -/
  | push (space : Namespace) (name : String) (untyped : space ≠ .type)

/-- Outside the namespace of the types, every occurrence of a name is numbered. -/
theorem NameRegistry.intern_of_ne_type {space : Namespace} (huntyped : space ≠ .type)
    (registry : NameRegistry) (name : String) :
    registry.intern space name =
      (.ok (registry.push space name).1, (registry.push space name).2) := by
  cases space with
  | type => exact absurd rfl huntyped
  | _ => rfl

namespace NameOperation

/-- The namespace in which an operation numbers its name. -/
def space : NameOperation → Namespace
  | intern space _ => space
  | internType _ => .type
  | push space _ _ => space

def name : NameOperation → String
  | intern _ name => name
  | internType name => name
  | push _ name _ => name

/-- The identifier that an operation gives, and the registry behind it. -/
def run (registry : NameRegistry) :
    (op : NameOperation) → Except NameError (Index op.space) × NameRegistry
  | intern space name => registry.intern space name
  | internType name => registry.internType name
  | push space name _ => (.ok (registry.push space name).1, (registry.push space name).2)

/-- Every operation numbers its name in the way of its namespace. -/
theorem run_eq_intern (registry : NameRegistry) (op : NameOperation) :
    op.run registry = registry.intern op.space op.name := by
  cases op with
  | intern space name => rfl
  | internType name => rfl
  | push space name untyped => exact (registry.intern_of_ne_type untyped name).symm

/-- The names that some operations number in a namespace, in their order. -/
def namesIn (space : Namespace) (operations : List NameOperation) : List String :=
  (operations.filter fun op => op.space = space).map name

/-- The type names that some operations number beside the reserved ones, each once. -/
def declaredNames (operations : List NameOperation) : List String :=
  ((namesIn .type operations).filter fun name => name ∉ reservedNames).dedup

variable {space : Namespace} {operations : List NameOperation} {op : NameOperation}

theorem namesIn_concat (h : op.space = space) :
    namesIn space (operations ++ [op]) = namesIn space operations ++ [op.name] := by
  simp [namesIn, h]

theorem namesIn_concat_of_ne (h : op.space ≠ space) :
    namesIn space (operations ++ [op]) = namesIn space operations := by
  simp [namesIn, h]

theorem mem_declaredNames {name : String} :
    name ∈ declaredNames operations ↔ name ∈ namesIn .type operations ∧ name ∉ reservedNames := by
  simp [declaredNames]

/-- More operations declare no fewer names. -/
theorem length_declaredNames_le (operations more : List NameOperation) :
    (declaredNames operations).length ≤ (declaredNames (operations ++ more)).length := by
  refine (List.subperm_of_subset (List.nodup_dedup _) fun name hname => ?_).length_le
  replace hname : name ∈ declaredNames operations := hname
  rw [mem_declaredNames] at hname ⊢
  refine ⟨?_, hname.2⟩
  rw [namesIn, List.filter_append, List.map_append, List.mem_append]
  exact .inl hname.1

/-- A type name that is new is one more. -/
theorem length_declaredNames_concat (htype : op.space = .type) (hnew : op.name ∉ reservedNames)
    (hfirst : op.name ∉ namesIn .type operations) :
    (declaredNames (operations ++ [op])).length = (declaredNames operations).length + 1 := by
  have hkeys : (declaredNames operations ++ [op.name]).Nodup := by
    refine List.nodup_append.mpr ⟨List.nodup_dedup _, List.nodup_singleton _, ?_⟩
    rintro name hname _ hother rfl
    rw [List.mem_singleton.mp hother] at hname
    exact hfirst (mem_declaredNames.mp hname).1
  rw [declaredNames, ← length_eq_dedup hkeys, List.length_append, List.length_singleton]
  intro name
  rw [namesIn_concat htype]
  simp only [List.mem_append, mem_declaredNames, List.mem_singleton, List.mem_filter,
    decide_eq_true_eq]
  constructor
  · rintro (⟨hname, hdeclared⟩ | rfl)
    · exact ⟨.inl hname, hdeclared⟩
    · exact ⟨.inr rfl, hnew⟩
  · rintro ⟨hname | rfl, hdeclared⟩
    · exact .inl ⟨hname, hdeclared⟩
    · exact .inr rfl

/-- There are identifiers for all type names of some operations: the largest one fits an object
    header. -/
def HasRoom (operations : List NameOperation) : Prop :=
  TypeId.firstDeclared + (declaredNames operations).length ≤ TypeId.max + 1

theorem HasRoom.of_append {more : List NameOperation} (h : HasRoom (operations ++ more)) :
    HasRoom operations := by
  have hle := length_declaredNames_le operations more
  unfold HasRoom at h ⊢
  omega

theorem HasRoom.concat {rest : List NameOperation} (h : HasRoom (operations ++ op :: rest)) :
    HasRoom (operations ++ [op]) := by
  rw [List.append_cons] at h
  exact h.of_append

end NameOperation

open NameOperation

/-! ### One operation -/

namespace NameRegistry

variable {registry later : NameRegistry} {space other : Namespace} {name : String}

theorem lookup_congr (h : later.table space = registry.table space) (name : String) :
    later.lookup space name = registry.lookup space name := by
  unfold lookup
  rw [h]

theorem resolve_table_congr (h : later.table space = registry.table space)
    (index : Index space) : later.resolve index = registry.resolve index := by
  unfold resolve names
  rw [h]

theorem count_congr (h : later.table space = registry.table space) :
    later.count space = registry.count space := by
  unfold count
  rw [h]

/-- An operation leaves the other namespaces as they are. -/
theorem table_run_of_ne (op : NameOperation) (hne : other ≠ op.space) :
    (op.run registry).2.table other = registry.table other := by
  rw [run_eq_intern]
  generalize op.space = space at hne
  cases space with
  | type => exact table_internType_of_ne hne op.name
  | _ => exact (table_push registry _ other op.name).trans (if_neg hne)

theorem names_push (registry : NameRegistry) (space : Namespace) (name : String) :
    ((registry.push space name).2.names space).toList =
      (registry.names space).toList ++ [name] :=
  names_pushAll [name]

/-- In a namespace other than that of the types, an operation gives the next number. -/
theorem run_of_ne_type (op : NameOperation) (huntyped : op.space ≠ .type) :
    (op.run registry).1 = .ok ⟨registry.count op.space⟩ ∧
      ((op.run registry).2.names op.space).toList =
        (registry.names op.space).toList ++ [op.name] := by
  rw [run_eq_intern, intern_of_ne_type huntyped]
  exact ⟨rfl, names_push registry op.space op.name⟩

/-- A type name that is numbered keeps its number, and a new one gets the next number as long as
    an object header has room for it. -/
theorem internType_cases (registry : NameRegistry) (name : String) :
    (∃ tid, registry.lookup .type name = some tid ∧
        registry.internType name = (.ok tid, registry)) ∨
      (registry.lookup .type name = none ∧ TypeId.max < registry.count .type ∧
        registry.internType name = (.error (.typeIdsExhausted name TypeId.max), registry)) ∨
      (registry.lookup .type name = none ∧ registry.count .type ≤ TypeId.max ∧
        registry.internType name = (.ok ⟨registry.count .type⟩, (registry.push .type name).2)) := by
  unfold internType
  cases hlookup : registry.lookup .type name with
  | some tid => exact .inl ⟨tid, rfl, rfl⟩
  | none =>
    by_cases hfull : registry.count .type > TypeId.max
    · exact .inr (.inl ⟨rfl, hfull, if_pos hfull⟩)
    · exact .inr (.inr ⟨rfl, Nat.le_of_not_gt hfull, if_neg hfull⟩)

theorem internType_new {tid : TypeId} (hnew : registry.lookup .type name = none)
    (hok : (registry.internType name).1 = .ok tid) : tid = ⟨registry.count .type⟩ := by
  rcases internType_cases registry name with ⟨found, hfound, -⟩ | ⟨-, -, hrun⟩ | ⟨-, -, hrun⟩
  · rw [hfound] at hnew
    cases hnew
  · rw [hrun] at hok
    cases hok
  · rw [hrun] at hok
    cases hok
    rfl

/-- Names that are numbered stay in front of the new ones. -/
theorem names_prefix_run (op : NameOperation) (space : Namespace) :
    (registry.names space).toList <+: ((op.run registry).2.names space).toList := by
  by_cases hspace : space = op.space
  · subst hspace
    by_cases htype : op.space = .type
    · rw [run_eq_intern, htype]
      show _ <+: ((registry.internType op.name).2.names .type).toList
      rcases internType_cases registry op.name with ⟨tid, -, h⟩ | ⟨-, -, h⟩ | ⟨-, -, h⟩
      · exact ⟨[], by rw [List.append_nil, h]⟩
      · exact ⟨[], by rw [List.append_nil, h]⟩
      · rw [h]
        exact ⟨[op.name], (names_push registry .type op.name).symm⟩
    · exact ⟨[op.name], (run_of_ne_type op htype).2.symm⟩
  · exact ⟨[], by rw [List.append_nil, names, names, table_run_of_ne op hspace]⟩

theorem resolve_of_prefix {index : Index space}
    (hextends : (registry.names space).toList <+: (later.names space).toList)
    (h : registry.resolve index = some name) : later.resolve index = some name := by
  unfold resolve at h ⊢
  rw [← Array.getElem?_toList] at h ⊢
  obtain ⟨rest, hrest⟩ := hextends
  have hlt := (List.getElem?_eq_some_iff.mp h).1
  rw [← hrest, List.getElem?_append_left hlt, h]

/-- The number that an operation gives to a type name is the one under which it is found. -/
theorem TypesNumbered.lookup_internType (h : registry.TypesNumbered) {tid : TypeId}
    (hok : (registry.internType name).1 = .ok tid) :
    (registry.internType name).2.lookup .type name = some tid := by
  rcases internType_cases registry name with ⟨found, hfound, hrun⟩ | ⟨-, -, hrun⟩ | ⟨hnew, -, hrun⟩
  · rw [hrun] at hok ⊢
    cases hok
    exact hfound
  · rw [hrun] at hok
    cases hok
  · rw [hrun] at hok ⊢
    cases hok
    have hnames : ((registry.push .type name).2.types.names).toList =
        registry.types.names.toList ++ [name] := names_push registry .type name
    rw [(h.push hnew).lookup_eq_some_iff, ← Array.getElem?_toList, hnames]
    exact List.getElem?_concat_length

/-- A type name is found when it is one of those that are numbered. -/
theorem TypesNumbered.lookup_eq_none_iff (h : registry.TypesNumbered) :
    registry.lookup .type name = none ↔ name ∉ registry.names .type := by
  rw [Option.eq_none_iff_forall_ne_some]
  simp only [Ne, h.lookup_eq_some_iff]
  rw [← Array.mem_toList_iff, List.mem_iff_getElem?]
  simp only [Array.getElem?_toList, not_exists]
  exact ⟨fun hnone place => hnone ⟨place⟩, fun hnone tid => hnone tid.value⟩

theorem length_reservedNames : reservedNames.length = TypeId.firstDeclared := by
  decide

/-- The reserved type names and the declared ones are all there are, each of them once. -/
theorem TypesNumbered.count_eq (h : registry.TypesNumbered) {list : List String}
    (hmem : ∀ name, name ∈ registry.names .type ↔ name ∈ reservedNames ∨ name ∈ list) :
    registry.count .type =
      TypeId.firstDeclared + (list.filter fun name => name ∉ reservedNames).dedup.length := by
  -- both lists have the same names, and neither has one twice
  have hperm : (registry.names .type).toList.Perm
      (reservedNames ++ (list.filter fun name => name ∉ reservedNames).dedup) := by
    refine (List.perm_ext_iff_of_nodup h.nodup ?_).mpr ?_
    · refine List.nodup_append.mpr ⟨nodup_reservedNames, List.nodup_dedup _, ?_⟩
      rintro name hreserved _ hother rfl
      simp [hreserved] at hother
    · intro name
      show name ∈ (registry.names .type).toList ↔ _
      rw [Array.mem_toList_iff, hmem]
      by_cases hreserved : name ∈ reservedNames <;> simp [hreserved]
  have hlength := hperm.length_eq
  rwa [Array.length_toList, List.length_append, length_reservedNames] at hlength

/-! ### Runs of operations -/

/-- The registry after some operations, from the start on. -/
def after (operations : List NameOperation) : NameRegistry :=
  operations.foldl (fun registry op => (op.run registry).2) initial

variable {operations more : List NameOperation} {op : NameOperation}

theorem after_concat : after (operations ++ [op]) = (op.run (after operations)).2 :=
  List.foldl_concat ..

theorem typesNumbered_after (operations : List NameOperation) :
    (after operations).TypesNumbered := by
  induction operations using List.reverseRecOn with
  | nil => exact typesNumbered_initial
  | append_singleton operations op ih =>
    rw [after_concat]
    by_cases htype : op.space = .type
    · rw [run_eq_intern, htype]
      exact ih.internType op.name
    · exact ih.of_table_eq (table_run_of_ne op (Ne.symm htype))

theorem names_prefix_after (operations more : List NameOperation) (space : Namespace) :
    ((after operations).names space).toList <+:
      ((after (operations ++ more)).names space).toList := by
  induction more using List.reverseRecOn with
  | nil => exact ⟨[], by rw [List.append_nil, List.append_nil]⟩
  | append_singleton more op ih =>
    rw [← List.append_assoc, after_concat]
    exact ih.trans (names_prefix_run op space)

/-- The names of a namespace other than that of the types are those of its operations. -/
theorem names_after (huntyped : space ≠ .type) :
    ((after operations).names space).toList = namesIn space operations := by
  -- from the end, since a name is numbered by what came before it
  induction operations using List.reverseRecOn with
  | nil =>
    cases space with
    | type => exact absurd rfl huntyped
    | _ => rfl
  | append_singleton operations op ih =>
    rw [after_concat]
    by_cases hspace : op.space = space
    · subst hspace
      rw [(run_of_ne_type op huntyped).2, ih, namesIn_concat rfl]
    · rw [namesIn_concat_of_ne hspace, ← ih, names, names,
        table_run_of_ne op (Ne.symm hspace)]

/-- A type name can be numbered as long as there is room for all names that are declared. -/
theorem internType_after
    (hmem : ∀ name, name ∈ (after operations).names .type ↔
      name ∈ reservedNames ∨ name ∈ namesIn .type operations)
    (htype : op.space = .type) (hroom : HasRoom (operations ++ [op])) :
    ∃ tid, ((after operations).internType op.name).1 = .ok tid := by
  have hnumbered := typesNumbered_after operations
  rcases internType_cases (after operations) op.name with
    ⟨tid, -, hrun⟩ | ⟨hnew, hfull, -⟩ | ⟨-, -, hrun⟩
  · exact ⟨tid, by rw [hrun]⟩
  · -- a name that is new is one of those that there is room for
    rw [hnumbered.lookup_eq_none_iff, hmem, not_or] at hnew
    have hcount := hnumbered.count_eq hmem
    unfold HasRoom at hroom
    rw [length_declaredNames_concat htype hnew.1 hnew.2] at hroom
    unfold declaredNames at hroom
    omega
  · exact ⟨_, by rw [hrun]⟩

/-- While there is room, the numbered type names are the reserved ones and those of the
    operations. -/
theorem mem_types_after (hroom : HasRoom operations) :
    ∀ name, name ∈ (after operations).names .type ↔
      name ∈ reservedNames ∨ name ∈ namesIn .type operations := by
  induction operations using List.reverseRecOn with
  | nil =>
    intro name
    have hinitial : ((after []).names .type).toList = reservedNames :=
      NameTable.names_ofList reservedNames
    rw [← Array.mem_toList_iff, hinitial]
    simp [namesIn]
  | append_singleton operations op ih =>
    intro name
    have hmem := ih hroom.of_append
    rw [after_concat]
    by_cases htype : op.space = .type
    · obtain ⟨tid, hok⟩ := internType_after hmem htype hroom
      have hnext := internType_mem_iff hok name
      rw [hmem, or_assoc] at hnext
      rw [run_eq_intern, namesIn_concat htype, htype, List.mem_append, List.mem_singleton]
      exact hnext
    · rw [namesIn_concat_of_ne htype, names, table_run_of_ne op (Ne.symm htype), ← names, hmem]

/-- A name is found unless it was never numbered. -/
theorem lookup_eq_none_iff {list : List String}
    (hnames : (registry.names space).toList = list) :
    registry.lookup space name = none ↔ name ∉ list := by
  subst hnames
  unfold lookup
  rw [Option.map_eq_none_iff, NameTable.find?_eq, lastPlaceBelow_eq_none_iff,
    List.mem_iff_getElem?, not_exists]
  simp only [Array.getElem?_toList]
  constructor
  · intro hnone place hname
    exact hnone place (Array.getElem?_eq_some_iff.mp hname).1 hname
  · exact fun hnone place _ => hnone place

/-- Type names are numbered one to one. Every number below the count belongs to a name, and the
    names with a number are the reserved ones and those of some operations. The reserved names
    have the first numbers, in their order; any other name comes behind them and behind the names
    that were declared before it was numbered first. -/
structure NumbersTypes (registry : NameRegistry) (operations : List NameOperation) : Prop where
  lookup_iff : ∀ name (tid : TypeId),
    registry.lookup .type name = some tid ↔ registry.resolve tid = some name
  resolve_isSome : ∀ tid : TypeId, (registry.resolve tid).isSome ↔ tid.value < registry.count .type
  lookup_isSome : ∀ name, (registry.lookup .type name).isSome ↔
    name ∈ reservedNames ∨ name ∈ namesIn .type operations
  reserved : ∀ i name, reservedNames[i]? = some name → registry.lookup .type name = some ⟨i⟩
  declared : ∀ before op rest, operations = before ++ op :: rest → op.space = .type →
    op.name ∉ reservedNames → op.name ∉ namesIn .type before →
    registry.lookup .type op.name =
      some ⟨TypeId.firstDeclared + (declaredNames before).length⟩

/-- Every occurrence of a name is numbered. The number of an occurrence is its place among the
    operations of the namespace, and a name is found under the number of its last one. -/
structure NumbersOccurrences (registry : NameRegistry) (space : Namespace)
    (operations : List NameOperation) : Prop where
  count_eq : registry.count space = (namesIn space operations).length
  resolve_eq : ∀ index : Index space,
    registry.resolve index = (namesIn space operations)[index.value]?
  lookup_iff : ∀ name (index : Index space), registry.lookup space name = some index ↔
    IsLastPlace (namesIn space operations) name index.value
  lookup_none : ∀ name, registry.lookup space name = none ↔ name ∉ namesIn space operations

theorem numbersOccurrences_after (huntyped : space ≠ .type) (operations : List NameOperation) :
    (after operations).NumbersOccurrences space operations where
  count_eq := by
    rw [← names_after huntyped, Array.length_toList]
    rfl
  resolve_eq index := by
    rw [← names_after huntyped, Array.getElem?_toList]
    rfl
  lookup_iff name index := lookup_iff_isLastPlace (names_after huntyped)
  lookup_none name := lookup_eq_none_iff (names_after huntyped)

/-- The number that a type name gets is the one under which it is found from then on. -/
theorem lookup_after {before rest : List NameOperation} {tid : TypeId}
    (htype : op.space = .type)
    (hok : ((after before).internType op.name).1 = .ok tid) :
    (after (before ++ op :: rest)).lookup .type op.name = some tid := by
  have hfirst := (typesNumbered_after before).lookup_internType hok
  have hstep : after (before ++ [op]) = ((after before).internType op.name).2 := by
    rw [after_concat, run_eq_intern, htype]
    rfl
  rw [← hstep] at hfirst
  have hextends := names_prefix_after (before ++ [op]) rest .type
  rw [List.append_assoc, List.singleton_append] at hextends
  rw [(typesNumbered_after _).lookup_eq_some_iff]
  exact resolve_of_prefix hextends (resolve_of_lookup hfirst)

theorem numbersTypes_after (hroom : HasRoom operations) :
    (after operations).NumbersTypes operations := by
  have hnumbered := typesNumbered_after operations
  have hmem := mem_types_after hroom
  constructor
  case lookup_iff => exact fun name tid => hnumbered.lookup_eq_some_iff
  case resolve_isSome =>
    intro tid
    rw [resolve, isSome_getElem?]
    rfl
  case lookup_isSome =>
    intro name
    rw [Option.isSome_iff_ne_none, Ne, hnumbered.lookup_eq_none_iff, not_not, hmem]
  case reserved =>
    intro i name hname
    have hlt := (List.getElem?_eq_some_iff.mp hname).1
    rw [length_reservedNames] at hlt
    rw [hnumbered.lookup_reserved_iff (decide_eq_true hlt), reservedId?_eq_some_iff, hname]
  case declared =>
    rintro before op rest rfl htype hnew hfirst
    have hmemBefore := mem_types_after hroom.of_append
    have hunknown : (after before).lookup .type op.name = none := by
      rw [(typesNumbered_after before).lookup_eq_none_iff, hmemBefore, not_or]
      exact ⟨hnew, hfirst⟩
    obtain ⟨tid, hok⟩ := internType_after hmemBefore htype hroom.concat
    have htid := internType_new hunknown hok
    rw [lookup_after htype hok, htid, (typesNumbered_after before).count_eq hmemBefore]
    rfl

/-- While there is room, every operation gives a number at the time of its run: to a type name
    the one under which it is found in the end, to another name that of its occurrence. -/
theorem run_ok_after {before rest : List NameOperation}
    (hroom : HasRoom (before ++ op :: rest)) :
    ∃ index, (op.run (after before)).1 = .ok index ∧
      (op.space = .type →
        (after (before ++ op :: rest)).lookup op.space op.name = some index) ∧
      (op.space ≠ .type → index.value = (namesIn op.space before).length) := by
  by_cases htype : op.space = .type
  · have hmem := mem_types_after hroom.of_append
    obtain ⟨tid, hok⟩ := internType_after hmem htype hroom.concat
    have hlookup : (after (before ++ op :: rest)).lookup .type op.name = some tid :=
      lookup_after htype hok
    rw [run_eq_intern]
    generalize op.space = space at htype
    subst htype
    exact ⟨tid, hok, fun _ => hlookup, fun hne => absurd rfl hne⟩
  · refine ⟨_, (run_of_ne_type op htype).1, fun h => absurd h htype, fun _ => ?_⟩
    exact (numbersOccurrences_after htype before).count_eq

/-- After any operations on the five namespaces, in any order, as long as there is room for the
    type names: type names are numbered one to one, names of the other namespaces by their
    occurrences, and each operation has given the number that goes with this. What stands under a
    number stays there whatever follows, and an operation changes nothing that can be looked up in
    another namespace. -/
theorem names_follow_operations (operations : List NameOperation) (hroom : HasRoom operations) :
    (after operations).NumbersTypes operations ∧
      (∀ space, space ≠ .type → (after operations).NumbersOccurrences space operations) ∧
      (∀ before op rest, operations = before ++ op :: rest →
        ∃ index, (op.run (after before)).1 = .ok index ∧
          (op.space = .type → (after operations).lookup op.space op.name = some index) ∧
          (op.space ≠ .type → index.value = (namesIn op.space before).length)) ∧
      (∀ more space (index : Index space) name, (after operations).resolve index = some name →
        (after (operations ++ more)).resolve index = some name) ∧
      ∀ (op : NameOperation) other, other ≠ op.space →
        (∀ name, (op.run (after operations)).2.lookup other name =
          (after operations).lookup other name) ∧
        (∀ index : Index other, (op.run (after operations)).2.resolve index =
          (after operations).resolve index) ∧
        (op.run (after operations)).2.count other = (after operations).count other := by
  refine ⟨numbersTypes_after hroom, fun space huntyped => numbersOccurrences_after huntyped _,
    ?_, ?_, ?_⟩
  · rintro before op rest rfl
    exact run_ok_after hroom
  · intro more space index name hname
    exact resolve_of_prefix (names_prefix_after operations more space) hname
  · intro op other hne
    have htable : (op.run (after operations)).2.table other = (after operations).table other :=
      table_run_of_ne op hne
    exact ⟨lookup_congr htable, resolve_table_congr htable, count_congr htable⟩

/-- Operations with a reserved name, a type name that is numbered in both ways, and names that
    are repeated in two other namespaces. -/
def mixedOperations : List NameOperation :=
  [.internType "Point", .push .field "x" (by decide), .intern .type "Nat", .intern .invoke "x",
   .intern .type "Point", .push .field "y" (by decide), .internType "Line", .intern .field "x"]

theorem names_follow_mixedOperations :
    HasRoom mixedOperations ∧
      (after mixedOperations).lookup .type "Nat" = some ⟨3⟩ ∧
      (after mixedOperations).lookup .type "Line" = some ⟨27⟩ ∧
      (after mixedOperations).lookup .field "x" = some ⟨2⟩ ∧
      (after mixedOperations).resolve (⟨0⟩ : FieldId) = some "x" ∧
      (after mixedOperations).lookup .property "x" = none := by
  have hroom : HasRoom mixedOperations := by
    unfold HasRoom
    decide
  obtain ⟨htypes, hothers, -⟩ := names_follow_operations mixedOperations hroom
  have hfields := hothers .field (by decide)
  have hnames : namesIn .field mixedOperations = ["x", "y", "x"] := rfl
  refine ⟨hroom, htypes.reserved 3 "Nat" rfl, ?_, ?_, ?_, ?_⟩
  · exact htypes.declared (mixedOperations.take 6) (.internType "Line") _ rfl rfl (by decide)
      (by decide)
  · rw [hfields.lookup_iff, hnames]
    exact ⟨rfl, by grind⟩
  · rw [hfields.resolve_eq]
    rfl
  · rw [(hothers .property (by decide)).lookup_none]
    decide

end NameRegistry

end ProgramImage
