import ProgramImage.SlotTable

/-!
# What tables hold

A declaration that is stored takes an empty slot, and every other slot stays as it was. So a
table keeps what it held before, and two declarations are stored in either order with the same
result, since each takes a place of its own. The table of types starts with the reserved
descriptors.

## Main definitions

* `SlotTable.IsPlaced` says that every declaration stands at its own place.
* `SlotTable.Extends` says that one table holds all that another one holds.
* `TypeTable.HoldsReserved` says that every reserved type has its own descriptor.
* `TypeTable.Every` says that all descriptors of a table have a property.

## Main statements

* `SlotTable.insert_eq_ok` says what storing a declaration does, and `SlotTable.insert_cases` when
  it is stored and when it is refused.
* `SlotTable.insert_comm` stores two declarations in the other order.
-/

namespace ProgramImage

namespace SlotTable

variable {α : Type}

/-- A stored declaration is found at its place, which was empty before, and the other
    places hold what they held. -/
theorem insert_eq_ok [Declared α] {table later : SlotTable α} {item : α}
    (h : table.insert item = .ok later) :
    Declared.place item < table.size ∧ table.get? (Declared.place item) = none ∧
      later.size = table.size ∧
      ∀ p, later.get? p = if p = Declared.place item then some item else table.get? p := by
  unfold insert at h
  dsimp only at h
  split at h
  · next hlt =>
    split at h
    · next hnone =>
      cases h
      refine ⟨hlt, ?_, Array.size_set hlt, ?_⟩
      · rw [get?, Array.getElem?_eq_getElem hlt, hnone]
        rfl
      · intro p
        unfold get?
        rw [Array.getElem?_set]
        by_cases hp : Declared.place item = p
        · rw [if_pos hp, if_pos hp.symm]
          rfl
        · rw [if_neg hp, if_neg (Ne.symm hp)]
    · cases h
  · cases h

/-- Every declaration of a table stands at its own place. -/
def IsPlaced [Declared α] (table : SlotTable α) : Prop :=
  ∀ p item, table.get? p = some item → Declared.place item = p

/-- A table holds all that another one holds, at the same places. -/
def Extends (later table : SlotTable α) : Prop :=
  ∀ p item, table.get? p = some item → later.get? p = some item

theorem Extends.refl (table : SlotTable α) : table.Extends table :=
  fun _ _ h => h

theorem Extends.trans {first second third : SlotTable α} (hsecond : third.Extends second)
    (hfirst : second.Extends first) : third.Extends first :=
  fun p item h => hsecond p item (hfirst p item h)

theorem lt_size_of_get? {table : SlotTable α} {p : Nat} {item : α}
    (h : table.get? p = some item) : p < table.size := by
  unfold get? at h
  by_cases hp : p < table.slots.size
  · exact hp
  · rw [Array.getElem?_eq_none (by omega)] at h
    cases h

/-- Two tables of one size that hold the same are the same. -/
theorem ext_get? {first second : SlotTable α} (hsize : first.size = second.size)
    (hget : ∀ p, first.get? p = second.get? p) : first = second := by
  obtain ⟨first⟩ := first
  obtain ⟨second⟩ := second
  congr 1
  refine Array.ext hsize ?_
  intro p hfirst hsecond
  have hp := hget p
  simpa only [get?, Array.getElem?_eq_getElem hfirst, Array.getElem?_eq_getElem hsecond,
    Option.join_some] using hp

@[simp] theorem get?_empty (size p : Nat) : (empty size : SlotTable α).get? p = none := by
  unfold get? empty
  rw [Array.getElem?_replicate]
  split <;> rfl

@[simp] theorem size_empty (size : Nat) : (empty size : SlotTable α).size = size :=
  Array.size_replicate

theorem isPlaced_empty [Declared α] (size : Nat) : (empty size : SlotTable α).IsPlaced := by
  intro p item h
  simp at h

variable [Declared α] {table mid later : SlotTable α} {item other : α}

/-- What is found in a table is still found after a further declaration is stored. -/
theorem extends_of_insert (h : table.insert item = .ok later) : later.Extends table := by
  intro p old hold
  obtain ⟨-, hnone, -, hget⟩ := insert_eq_ok h
  have hp : p ≠ Declared.place item := by
    rintro rfl
    rw [hnone] at hold
    cases hold
  rw [hget, if_neg hp, hold]

theorem IsPlaced.insert (htable : table.IsPlaced) (h : table.insert item = .ok later) :
    later.IsPlaced := by
  intro p found hfound
  obtain ⟨-, -, -, hget⟩ := insert_eq_ok h
  rw [hget] at hfound
  split at hfound
  · next hp =>
    cases hfound
    exact hp.symm
  · exact htable p found hfound

/-- A declaration is stored when its place is in the table and empty. -/
theorem exists_insert (hplace : Declared.place item < table.size)
    (hempty : table.get? (Declared.place item) = none) :
    ∃ later, table.insert item = .ok later := by
  unfold insert
  dsimp only
  split
  · next hlt =>
    split
    · exact ⟨_, rfl⟩
    · next found hslot =>
      rw [get?, Array.getElem?_eq_getElem hlt, hslot] at hempty
      cases hempty
  · next hnot => exact absurd hplace hnot

theorem insert_of_le (h : table.size ≤ Declared.place item) :
    table.insert item = .error (.outOfRange (Declared.label α) (Declared.place item) table.size) :=
  dif_neg (Nat.not_lt_of_le h)

theorem insert_of_isSome (h : (table.get? (Declared.place item)).isSome) :
    table.insert item = .error (.duplicate (Declared.label α) (Declared.place item)) := by
  obtain ⟨found, hfound⟩ := Option.isSome_iff_exists.mp h
  have hplace : Declared.place item < table.slots.size := lt_size_of_get? hfound
  rw [get?, Array.getElem?_eq_getElem hplace, Option.join_some] at hfound
  simp only [insert, dif_pos hplace, hfound]

/-- A declaration is out of range, or a duplicate, or it is stored. -/
theorem insert_cases (table : SlotTable α) (item : α) :
    (table.size ≤ Declared.place item ∧ table.insert item =
      .error (.outOfRange (Declared.label α) (Declared.place item) table.size)) ∨
    ((table.get? (Declared.place item)).isSome ∧ table.insert item =
      .error (.duplicate (Declared.label α) (Declared.place item))) ∨
    (Declared.place item < table.size ∧ table.get? (Declared.place item) = none ∧
      ∃ later, table.insert item = .ok later) := by
  rcases Nat.lt_or_ge (Declared.place item) table.size with hlt | hle
  · cases hget : table.get? (Declared.place item) with
    | none => exact .inr (.inr ⟨hlt, rfl, exists_insert hlt hget⟩)
    | some found => exact .inr (.inl ⟨rfl, insert_of_isSome (by rw [hget]; rfl)⟩)
  · exact .inl ⟨hle, insert_of_le hle⟩

/-- Two declarations that are stored one after the other are stored in the other order too,
    with the same result. -/
theorem insert_comm (hitem : table.insert item = .ok mid) (hother : mid.insert other = .ok later) :
    ∃ mid', table.insert other = .ok mid' ∧ mid'.insert item = .ok later := by
  obtain ⟨hplace, hempty, hsize, hget⟩ := insert_eq_ok hitem
  obtain ⟨hplaceOther, hemptyOther, hsizeOther, hgetOther⟩ := insert_eq_ok hother
  -- the second place was empty after the first declaration, so it is another one
  have hne : Declared.place other ≠ Declared.place item := by
    intro heq
    rw [hget, if_pos heq] at hemptyOther
    cases hemptyOther
  rw [hget, if_neg hne] at hemptyOther
  rw [hsize] at hplaceOther
  obtain ⟨mid', hmid'⟩ := exists_insert hplaceOther hemptyOther
  obtain ⟨-, -, hsize', hget'⟩ := insert_eq_ok hmid'
  have hfree : mid'.get? (Declared.place item) = none := by
    rw [hget', if_neg (Ne.symm hne), hempty]
  obtain ⟨later', hlater'⟩ := exists_insert (by rwa [hsize']) hfree
  obtain ⟨-, -, hsizeLater, hgetLater⟩ := insert_eq_ok hlater'
  have hsame : later' = later := by
    apply ext_get?
    · rw [hsizeLater, hsize', hsizeOther, hsize]
    · intro p
      rw [hgetLater, hget', hgetOther, hget]
      by_cases hp : p = Declared.place item
      · rw [if_pos hp, if_neg (by rw [hp]; exact Ne.symm hne), if_pos hp]
      · rw [if_neg hp, if_neg hp]
  exact ⟨mid', hmid', by rw [hlater', hsame]⟩

end SlotTable

namespace TypeTable

/-- Every reserved type has its own descriptor. -/
def HoldsReserved (table : TypeTable) : Prop :=
  ∀ (tid : TypeId) (desc : TypeDescriptor),
    reservedDescriptors[tid.value]? = some desc → table.type? tid = some desc

/-- Every descriptor of a table has a property. -/
def Every (P : TypeDescriptor → Prop) (table : TypeTable) : Prop :=
  ∀ (tid : TypeId) (desc : TypeDescriptor), table.type? tid = some desc → P desc

/-- A type that is found by its number knows it. -/
theorem tid_eq {table : TypeTable} (h : table.IsPlaced) {tid : TypeId} {desc : TypeDescriptor}
    (hdesc : table.type? tid = some desc) : desc.tid = tid :=
  congrArg Index.mk (h tid.value desc hdesc)

/-- Before anything is declared a table holds the reserved descriptors and no others. -/
theorem type?_reserved (size : Nat) (tid : TypeId) :
    (reserved size).type? tid = reservedDescriptors[tid.value]? := by
  unfold type? SlotTable.get? reserved
  rw [Array.getElem?_append]
  by_cases htid : tid.value < reservedDescriptors.length
  · rw [if_pos (by simpa using htid)]
    simp [List.getElem?_eq_getElem htid]
  · rw [if_neg (by simpa using htid), List.getElem?_eq_none (by omega),
      Array.getElem?_replicate]
    split <;> rfl

theorem size_reserved (size : Nat) :
    (reserved size).size = max size reservedDescriptors.length := by
  rw [reserved, SlotTable.size, Array.size_append, Array.size_map, List.size_toArray,
    Array.size_replicate]
  omega

theorem holdsReserved_reserved (size : Nat) : (reserved size).HoldsReserved := by
  intro tid desc h
  rw [type?_reserved, h]

theorem HoldsReserved.of_extends {table later : TypeTable} (h : table.HoldsReserved)
    (hlater : later.Extends table) : later.HoldsReserved :=
  fun tid desc hreserved => hlater _ _ (h tid desc hreserved)

/-- The reserved descriptors stand at their own places. -/
theorem isPlaced_reserved (size : Nat) : (reserved size).IsPlaced := by
  intro p desc h
  have hreserved : reservedDescriptors[p]? = some desc :=
    (type?_reserved size ⟨p⟩).symm.trans h
  unfold reservedDescriptors at hreserved
  rw [List.getElem?_map, Option.map_eq_some_iff] at hreserved
  obtain ⟨⟨⟨name, size, kind⟩, tid⟩, hshape, rfl⟩ := hreserved
  rw [List.getElem?_zipIdx, Option.map_eq_some_iff] at hshape
  obtain ⟨shape, -, hpair⟩ := hshape
  cases hpair
  exact Nat.zero_add p

theorem every_reserved {P : TypeDescriptor → Prop} (h : ∀ desc ∈ reservedDescriptors, P desc)
    (size : Nat) : (reserved size).Every P := by
  intro tid desc hdesc
  rw [type?_reserved] at hdesc
  exact h desc (List.mem_of_getElem? hdesc)

theorem Every.insert {P : TypeDescriptor → Prop} {table later : TypeTable}
    {desc : TypeDescriptor} (htable : table.Every P) (hdesc : P desc)
    (h : SlotTable.insert table desc = .ok later) : later.Every P := by
  intro tid found hfound
  obtain ⟨-, -, -, hget⟩ := SlotTable.insert_eq_ok h
  unfold type? at hfound
  rw [hget] at hfound
  split at hfound
  · cases hfound
    exact hdesc
  · exact htable tid found hfound

end TypeTable

end ProgramImage
