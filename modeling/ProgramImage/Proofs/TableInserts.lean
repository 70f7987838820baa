import ProgramImage.Invoke
import ProgramImage.Proofs.TableCounts

/-!
# Declarations offered to a table

A table is offered declarations one after the other, each for the place of its own identifier.
The first one for a place of the table is stored, and the others are refused and change nothing:
either their place is not in the table, or it is taken. The tables of fields, callables and types
all do the same, and a fresh table of types is one that was offered the reserved descriptors
before anything else.

## Main definitions

* `SlotTable.offer` is a table after one declaration, and `SlotTable.after` after some of them.
* `SlotTable.Answers` is how a table takes a declaration, and `SlotTable.ListsSlots` what it lists.
* `SlotTable.HoldsFirst` says that a table of a given size holds the first declaration for each
  place, and `TypeTable.HoldsTypes` the same after the reserved descriptors.

## Main statements

* `SlotTable.get?_offer` and `SlotTable.get?_after` are a place after one declaration and after a
  run.
* `TypeTable.reserved_eq_after` offers the reserved descriptors to an empty table, and
  `TypeTable.type?_after` is a type after a run.
* `TypeTable.tables_hold_first` is the state of each table after any run.
-/

namespace ProgramImage

namespace SlotTable

variable {α : Type} [Declared α] {table : SlotTable α} {item : α}

/-! ### One declaration -/

/-- The table after a declaration was offered to it. One that is refused leaves it. -/
def offer (table : SlotTable α) (item : α) : SlotTable α :=
  match table.insert item with
  | .ok later => later
  | .error _ => table

theorem offer_of_ok {later : SlotTable α} (h : table.insert item = .ok later) :
    table.offer item = later := by
  simp only [offer, h]

theorem offer_of_error {error : TableError} (h : table.insert item = .error error) :
    table.offer item = table := by
  simp only [offer, h]

@[simp] theorem size_offer (table : SlotTable α) (item : α) :
    (table.offer item).size = table.size := by
  rcases table.insert_cases item with ⟨-, h⟩ | ⟨-, h⟩ | ⟨-, -, later, h⟩
  · rw [offer_of_error h]
  · rw [offer_of_error h]
  · rw [offer_of_ok h, (insert_eq_ok h).2.2.1]

/-- What a place held stays there, and an empty place of the table takes a declaration for it. -/
theorem get?_offer (table : SlotTable α) (item : α) (p : Nat) :
    (table.offer item).get? p =
      (table.get? p).or (if p < table.size ∧ Declared.place item = p then some item else none) := by
  rcases table.insert_cases item with ⟨hle, h⟩ | ⟨hsome, h⟩ | ⟨hlt, hnone, later, h⟩
  · rw [offer_of_error h, if_neg (by omega), Option.or_none]
  · rw [offer_of_error h]
    by_cases hp : Declared.place item = p
    · obtain ⟨found, hfound⟩ := Option.isSome_iff_exists.mp hsome
      rw [← hp, hfound, Option.some_or]
    · rw [if_neg (fun hand => hp hand.2), Option.or_none]
  · rw [offer_of_ok h, (insert_eq_ok h).2.2.2]
    by_cases hp : Declared.place item = p
    · rw [if_pos hp.symm, ← hp, hnone, if_pos ⟨hlt, rfl⟩, Option.none_or]
    · rw [if_neg (Ne.symm hp), if_neg (fun hand => hp hand.2), Option.or_none]

/-- How a table takes a declaration. -/
structure Answers (table : SlotTable α) (item : α) : Prop where
  /-- It is stored when its place is in the table and empty. -/
  stored_iff : (∃ later, table.insert item = .ok later) ↔
    Declared.place item < table.size ∧ table.get? (Declared.place item) = none
  /-- It is then found at its place, and nothing else changes. -/
  stored : ∀ later, table.insert item = .ok later →
    table.offer item = later ∧ later.size = table.size ∧
      ∀ p, later.get? p = if p = Declared.place item then some item else table.get? p
  outOfRange_iff : table.insert item =
      .error (.outOfRange (Declared.label α) (Declared.place item) table.size) ↔
    table.size ≤ Declared.place item
  duplicate_iff : table.insert item =
      .error (.duplicate (Declared.label α) (Declared.place item)) ↔
    (table.get? (Declared.place item)).isSome
  /-- It is refused for one of these two reasons, and then changes nothing. -/
  refused : ∀ error, table.insert item = .error error →
    (error = .outOfRange (Declared.label α) (Declared.place item) table.size ∨
      error = .duplicate (Declared.label α) (Declared.place item)) ∧
    table.offer item = table

theorem answers (table : SlotTable α) (item : α) : table.Answers item where
  stored_iff := by
    refine ⟨?_, fun h => exists_insert h.1 h.2⟩
    rintro ⟨later, hlater⟩
    obtain ⟨hplace, hempty, -, -⟩ := insert_eq_ok hlater
    exact ⟨hplace, hempty⟩
  stored later h := by
    obtain ⟨-, -, hsize, hget⟩ := insert_eq_ok h
    exact ⟨offer_of_ok h, hsize, hget⟩
  outOfRange_iff := by
    refine ⟨fun h => ?_, insert_of_le⟩
    rcases table.insert_cases item with ⟨hle, -⟩ | ⟨-, hother⟩ | ⟨-, -, later, hother⟩
    · exact hle
    · cases hother.symm.trans h
    · cases hother.symm.trans h
  duplicate_iff := by
    refine ⟨fun h => ?_, insert_of_isSome⟩
    rcases table.insert_cases item with ⟨-, hother⟩ | ⟨hsome, -⟩ | ⟨-, -, later, hother⟩
    · cases hother.symm.trans h
    · exact hsome
    · cases hother.symm.trans h
  refused error h := by
    refine ⟨?_, offer_of_error h⟩
    rcases table.insert_cases item with ⟨-, hother⟩ | ⟨-, hother⟩ | ⟨-, -, later, hother⟩
    · exact .inl (Except.error.inj (h.symm.trans hother))
    · exact .inr (Except.error.inj (h.symm.trans hother))
    · cases hother.symm.trans h

/-! ### Runs -/

/-- The table after some declarations were offered to it. -/
def after (table : SlotTable α) (items : List α) : SlotTable α :=
  items.foldl offer table

/-- The first of some declarations for a place. -/
def first? (items : List α) (p : Nat) : Option α :=
  items.find? fun item => Declared.place item == p

theorem first?_cons (item : α) (items : List α) (p : Nat) :
    first? (item :: items) p =
      (if Declared.place item = p then some item else none).or (first? items p) := by
  unfold first?
  by_cases hp : Declared.place item = p
  · rw [List.find?_cons_of_pos (by simpa using hp), if_pos hp, Option.some_or]
  · rw [List.find?_cons_of_neg (by simpa using hp), if_neg hp, Option.none_or]

theorem place_of_first? {items : List α} {p : Nat} (h : first? items p = some item) :
    Declared.place item = p := by
  unfold first? at h
  simpa using List.find?_some h

@[simp] theorem size_after (table : SlotTable α) (items : List α) :
    (table.after items).size = table.size := by
  induction items generalizing table with
  | nil => rfl
  | cons item items ih => exact (ih (table.offer item)).trans (table.size_offer item)

/-- After a run a place holds what it held before, or else the first declaration for it. -/
theorem get?_after (table : SlotTable α) (items : List α) (p : Nat) :
    (table.after items).get? p =
      (table.get? p).or (if p < table.size then first? items p else none) := by
  induction items generalizing table with
  | nil =>
    show table.get? p = (table.get? p).or (if p < table.size then none else none)
    rw [ite_self, Option.or_none]
  | cons item items ih =>
    show ((table.offer item).after items).get? p = _
    rw [ih, size_offer, get?_offer, Option.or_assoc, first?_cons]
    by_cases hp : p < table.size
    · simp only [hp, true_and, if_true]
    · simp only [hp, false_and, if_false, Option.or_none]

theorem after_append (table : SlotTable α) (items more : List α) :
    table.after (items ++ more) = (table.after items).after more :=
  List.foldl_append

theorem IsPlaced.after (h : table.IsPlaced) (items : List α) : (table.after items).IsPlaced := by
  intro p item hitem
  rw [get?_after, Option.or_eq_some_iff] at hitem
  rcases hitem with hold | ⟨-, hnew⟩
  · exact h p item hold
  · split at hnew
    · exact place_of_first? hnew
    · cases hnew

/-! ### Lists -/

/-- What a table lists: the empty places, and the declarations at the other ones. -/
structure ListsSlots (table : SlotTable α) : Prop where
  mem_missing_iff : ∀ p, p ∈ table.missing ↔ p < table.size ∧ table.get? p = none
  missing_increasing : table.missing.Pairwise (· < ·)
  mem_toList_iff : ∀ item, item ∈ table.toList ↔ table.get? (Declared.place item) = some item
  places_increasing : (table.toList.map Declared.place).Pairwise (· < ·)
  populated_eq : table.populated =
    (List.range table.size).countP fun p => (table.get? p).isSome
  populated_add_missing : table.populated + table.missing.length = table.size

/-- A table whose declarations stand at their places lists them in order. -/
theorem IsPlaced.listsSlots (h : table.IsPlaced) : table.ListsSlots where
  mem_missing_iff p := by simp [missing]
  missing_increasing := List.pairwise_lt_range.filter _
  mem_toList_iff item := by
    rw [toList_eq, List.mem_filterMap]
    constructor
    · rintro ⟨p, -, hp⟩
      rw [h p item hp, hp]
    · intro hitem
      exact ⟨_, List.mem_range.mpr (lt_size_of_get? hitem), hitem⟩
  places_increasing := by
    rw [toList_eq, List.pairwise_map, List.pairwise_filterMap]
    refine List.pairwise_lt_range.imp ?_
    intro p q hlt item hitem other hother
    rw [h p item hitem, h q other hother]
    exact hlt
  populated_eq := populated_eq_countP_range table
  populated_add_missing := by
    rw [Nat.add_comm, missing_add_populated]

/-! ### The three tables -/

/-- A table of a given size holds the first of some declarations for each of its places. -/
structure HoldsFirst (table : SlotTable α) (size : Nat) (items : List α) : Prop where
  size_eq : table.size = size
  get?_eq : ∀ p, table.get? p = if p < size then first? items p else none
  isPlaced : table.IsPlaced
  lists : table.ListsSlots
  answers : ∀ item, table.Answers item

theorem holdsFirst_after (size : Nat) (items : List α) :
    ((empty size).after items).HoldsFirst size items := by
  have hplaced := (isPlaced_empty size).after items
  refine ⟨?_, ?_, hplaced, hplaced.listsSlots, answers _⟩
  · rw [size_after, size_empty]
  · intro p
    rw [get?_after, get?_empty, size_empty, Option.none_or]

/-- Declarations that stand at their places in a list are the first ones for them. -/
theorem first?_eq_getElem? {items : List α}
    (h : ∀ p item, items[p]? = some item → Declared.place item = p) (p : Nat) :
    first? items p = items[p]? := by
  cases hget : items[p]? with
  | none =>
    apply List.find?_eq_none.mpr
    intro item hitem hp
    obtain ⟨q, hq⟩ := List.mem_iff_getElem?.mp hitem
    obtain rfl : q = p := (h q item hq).symm.trans (eq_of_beq hp)
    rw [hq] at hget
    cases hget
  | some item =>
    obtain ⟨hp, hitem⟩ := List.getElem?_eq_some_iff.mp hget
    refine List.find?_eq_some_iff_getElem.mpr ⟨by simpa using h p item hget, p, hp, hitem, ?_⟩
    intro q hq
    have hplace := h q _ (List.getElem?_eq_getElem (Nat.lt_trans hq hp))
    simp only [hplace, Bool.not_eq_true', beq_eq_false_iff_ne]
    exact Nat.ne_of_lt hq

end SlotTable

namespace TypeTable

theorem reservedDescriptors_place {p : Nat} {desc : TypeDescriptor}
    (h : reservedDescriptors[p]? = some desc) : Declared.place desc = p :=
  isPlaced_reserved 0 p desc ((type?_reserved 0 ⟨p⟩).trans h)

/-- A fresh table of types was offered the reserved descriptors, which have room in it. -/
theorem reserved_eq_after (size : Nat) :
    reserved size = (SlotTable.empty (max size TypeId.firstDeclared)).after reservedDescriptors := by
  have hlength : reservedDescriptors.length = TypeId.firstDeclared := rfl
  apply SlotTable.ext_get?
  · rw [SlotTable.size_after, SlotTable.size_empty, size_reserved, hlength]
  · intro p
    rw [SlotTable.get?_after, SlotTable.get?_empty, Option.none_or, SlotTable.size_empty,
      SlotTable.first?_eq_getElem? fun _ _ => reservedDescriptors_place]
    refine (type?_reserved size ⟨p⟩).trans ?_
    split
    · rfl
    · show reservedDescriptors[p]? = none
      exact List.getElem?_eq_none (by omega)

/-- A table of types is never too short for the reserved ones. It holds their descriptors, then
    the first of some others for each place. -/
structure HoldsTypes (table : TypeTable) (size : Nat) (descs : List TypeDescriptor) : Prop where
  holds : SlotTable.HoldsFirst table (max size TypeId.firstDeclared) (reservedDescriptors ++ descs)
  firstDeclared_le : TypeId.firstDeclared ≤ table.size
  /-- A reserved place is never empty, and what is offered for it is refused. -/
  reserved : ∀ tid : TypeId, tid.isReserved →
    (∃ desc, reservedDescriptors[tid.value]? = some desc ∧ table.type? tid = some desc) ∧
      ∀ desc : TypeDescriptor, desc.tid = tid →
        table.insert desc = .error (.duplicate "type" tid.value)
  /-- Any other place holds the first descriptor for it. -/
  declared : ∀ tid : TypeId, tid.isReserved = false → tid.value < size →
    table.type? tid = descs.find? fun desc => desc.tid == tid
  undeclared : table.undeclared.map Index.value = table.missing

/-- The first descriptor for a place is the first one with this identifier. -/
theorem first?_eq_find? (descs : List TypeDescriptor) (tid : TypeId) :
    SlotTable.first? descs tid.value = descs.find? fun desc => desc.tid == tid := by
  have hsame : (fun desc : TypeDescriptor => Declared.place desc == tid.value) =
      fun desc => desc.tid == tid := by
    funext desc
    rw [Bool.eq_iff_iff, beq_iff_eq, beq_iff_eq]
    exact ⟨congrArg Index.mk, congrArg Index.value⟩
  rw [SlotTable.first?, hsame]

/-- The reserved descriptors are in place before any other, so they win in their places. -/
theorem type?_after (size : Nat) (descs : List TypeDescriptor) (tid : TypeId) :
    type? ((reserved size).after descs) tid =
      (reservedDescriptors[tid.value]?).or
        (if tid.value < max size TypeId.firstDeclared then descs.find? fun desc => desc.tid == tid
          else none) := by
  have hlength : reservedDescriptors.length = TypeId.firstDeclared := rfl
  rw [← type?_reserved size, ← first?_eq_find?, ← hlength, ← size_reserved]
  exact SlotTable.get?_after (reserved size) descs tid.value

theorem holdsTypes_after (size : Nat) (descs : List TypeDescriptor) :
    HoldsTypes ((reserved size).after descs) size descs := by
  have hafter : (reserved size).after descs =
      (SlotTable.empty (max size TypeId.firstDeclared)).after (reservedDescriptors ++ descs) := by
    rw [reserved_eq_after, SlotTable.after_append]
  have hholds := SlotTable.holdsFirst_after (max size TypeId.firstDeclared)
    (reservedDescriptors ++ descs)
  rw [← hafter] at hholds
  refine ⟨hholds, ?_, ?_, ?_, ?_⟩
  · rw [hholds.size_eq]
    exact Nat.le_max_right _ _
  · intro tid htid
    have hlt : tid.value < reservedDescriptors.length := of_decide_eq_true htid
    have hfound : type? ((reserved size).after descs) tid =
        some reservedDescriptors[tid.value] := by
      rw [type?_after, List.getElem?_eq_getElem hlt, Option.some_or]
    refine ⟨⟨_, List.getElem?_eq_getElem hlt, hfound⟩, ?_⟩
    rintro desc rfl
    exact SlotTable.insert_of_isSome (Option.isSome_iff_exists.mpr ⟨_, hfound⟩)
  · intro tid htid hlt
    have hnot : ¬tid.value < TypeId.firstDeclared := of_decide_eq_false htid
    have hlength : reservedDescriptors.length ≤ tid.value := Nat.le_of_not_lt hnot
    rw [type?_after, List.getElem?_eq_none hlength, Option.none_or,
      if_pos (Nat.lt_of_lt_of_le hlt (Nat.le_max_left _ _))]
  · rw [TypeTable.undeclared, List.map_map]
    exact List.map_id _

/-- However long a table is and whatever it is offered, it holds the first declaration for each of
    its places, and lists them in order. The tables of fields, callables and types do the same,
    and in the last the reserved descriptors come first. -/
theorem tables_hold_first (size : Nat) :
    (∀ fields : List FieldDescriptor,
      ((SlotTable.empty size).after fields).HoldsFirst size fields) ∧
    (∀ invokes : List Invoke, ((SlotTable.empty size).after invokes).HoldsFirst size invokes) ∧
    ∀ descs : List TypeDescriptor, HoldsTypes ((reserved size).after descs) size descs :=
  ⟨SlotTable.holdsFirst_after size, SlotTable.holdsFirst_after size, holdsTypes_after size⟩

/-- A scalar type of one word with an identifier of its own. -/
def scalarType (tid : Nat) (name : String) : TypeDescriptor :=
  ⟨⟨tid⟩, name, .register 8 8, .register⟩

/-- Two types for one place, one for a place far behind a table, and one for a reserved place. -/
def offeredTypes : List TypeDescriptor :=
  [scalarType 26 "Main::A", scalarType 40 "Main::Far", scalarType 3 "Nat", scalarType 26 "Main::B"]

theorem tables_hold_first_of_offeredTypes :
    let table : TypeTable := (reserved 28).after offeredTypes
    table.size = 28 ∧ table.type? ⟨26⟩ = some (scalarType 26 "Main::A") ∧
      table.type? ⟨27⟩ = none ∧
      table.insert (scalarType 3 "Nat") = .error (.duplicate "type" 3) ∧
      table.insert (scalarType 40 "Main::Far") = .error (.outOfRange "type" 40 28) ∧
      table.populated + table.missing.length = 28 := by
  intro table
  obtain ⟨-, -, htypes⟩ := tables_hold_first 28
  have hholds : HoldsTypes table 28 offeredTypes := htypes offeredTypes
  have hsize : table.size = 28 := hholds.holds.size_eq
  refine ⟨hsize, ?_, ?_, ?_, ?_, ?_⟩
  · exact hholds.declared ⟨26⟩ rfl (by decide)
  · exact hholds.declared ⟨27⟩ rfl (by decide)
  · exact (hholds.reserved ⟨3⟩ rfl).2 _ rfl
  · have hfar := (hholds.holds.answers (scalarType 40 "Main::Far")).outOfRange_iff
    rw [hsize] at hfar
    exact hfar.mpr (by decide)
  · exact hholds.holds.lists.populated_add_missing.trans hsize

end TypeTable

end ProgramImage
