import ProgramImage.Proofs.FlavorRun
import ProgramImage.Proofs.TableRun

/-!
# How many declarations a program holds

Every record that is stored fills one slot of a table that was empty, and registers one flavor
under a key that was free. So a table holds as many declarations as it started with and as
there are records, and the slots that are left are missing.

## Main statements

* `SlotTable.missing_add_populated` counts all slots of a table.
* `FillRun.populated_eq` counts the declarations after a run.
* `Except.foldlM_count` counts the items of a fold whose steps add one each.
* `Load.listFlavors_length` and `Load.mapFlavors_length` count the flavors.
-/

namespace ProgramImage

namespace SlotTable

variable {α : Type} {table later : SlotTable α}

theorem populated_eq_countP (table : SlotTable α) :
    table.populated = table.slots.countP Option.isSome := by
  simp [populated, toList, List.length_filterMap_eq_countP]

theorem slots_toList (table : SlotTable α) :
    table.slots.toList = (List.range table.size).map table.get? := by
  apply List.ext_getElem
  · simp [size]
  · intro p hslots hrange
    have hp : p < table.slots.size := by simpa using hslots
    simp [get?, Array.getElem?_eq_getElem hp]

theorem toList_eq (table : SlotTable α) :
    table.toList = (List.range table.size).filterMap table.get? := by
  rw [toList, slots_toList, List.filterMap_map]
  rfl

theorem populated_eq_countP_range (table : SlotTable α) :
    table.populated = (List.range table.size).countP fun place => (table.get? place).isSome := by
  rw [populated, toList_eq, List.length_filterMap_eq_countP]

/-- A slot is missing or holds a declaration. -/
theorem missing_add_populated (table : SlotTable α) :
    table.missing.length + table.populated = table.size := by
  have hmissing : table.missing.length =
      (List.range table.size).countP fun place => (table.get? place).isNone := by
    simp [missing, List.countP_eq_length_filter]
  have hpopulated : table.populated =
      (List.range table.size).countP fun place => ¬(table.get? place).isNone := by
    rw [populated_eq_countP_range]
    congr
    funext place
    cases table.get? place <;> rfl
  have hall := List.length_eq_countP_add_countP (fun place => (table.get? place).isNone)
    (l := List.range table.size)
  rw [List.length_range] at hall
  omega

theorem populated_insert [Declared α] {item : α} (h : table.insert item = .ok later) :
    later.populated = table.populated + 1 := by
  unfold insert at h
  dsimp only at h
  split at h
  · next hlt =>
    split at h
    · next hnone =>
      cases h
      simp [populated_eq_countP, Array.countP_set, hnone]
    · cases h
  · cases h

end SlotTable

theorem TypeTable.populated_reserved (size : Nat) :
    (reserved size).populated = reservedDescriptors.length := by
  simp [SlotTable.populated_eq_countP, reserved, Function.comp_def]

theorem FillRun.populated_eq {ρ α : Type} [Declared α]
    {resolve : SlotTable α → ρ → Except LoadError α} {table later : SlotTable α} {records : List ρ}
    (run : FillRun resolve table records later) :
    later.populated = table.populated + records.length := by
  induction run with
  | nil => rfl
  | cons _ hinsert _ ih =>
    rw [ih, SlotTable.populated_insert hinsert, List.length_cons]
    omega

/-- A fold whose steps add one item each adds as many as the list has. -/
theorem Except.foldlM_count {ε α σ : Type} {f : σ → α → Except ε σ} (count : σ → Nat)
    (hstep : ∀ s x s', f s x = .ok s' → count s' = count s + 1) {xs : List α} {s s' : σ}
    (h : xs.foldlM f s = .ok s') : count s' = count s + xs.length := by
  induction xs generalizing s with
  | nil =>
    cases h
    rfl
  | cons x xs ih =>
    rw [List.foldlM_cons] at h
    obtain ⟨mid, hmid, hrest⟩ := Except.bind_eq_ok.mp h
    rw [ih hrest, hstep s x mid hmid, List.length_cons]
    omega

theorem Keyed.length_insert {κ α : Type} [DecidableEq κ] [KeyOrder κ] {key : κ} {value : α}
    {mapping : List (κ × α)} (hfree : get? key mapping = none) :
    (insert key value mapping).length = mapping.length + 1 := by
  induction mapping with
  | nil => rfl
  | cons first rest ih =>
    obtain ⟨other, old⟩ := first
    rw [get?_cons] at hfree
    split at hfree
    · cases hfree
    · next hne =>
      have hrest := ih hfree
      rw [insert, if_neg (Ne.symm hne)]
      split <;> simp [hrest]

namespace Load

variable {registry : NameRegistry} {types : TypeTable} {flavors later : Flavors}

/-- There is a flavor for each record of a list type, and the other flavors stay as they are. -/
theorem listFlavors_length {records : List ListFlavorRecord}
    (h : (listFlavors registry types flavors records).outcome = .ok later) :
    later.lists.length = flavors.lists.length + records.length ∧ later.maps = flavors.maps := by
  have hstep : ∀ mid record next, registerList registry types mid record = .ok next →
      next.lists.length = mid.lists.length + 1 ∧ next.maps = mid.maps := by
    intro mid record next hnext
    obtain ⟨flavor, -, hregister⟩ := registerList_eq_ok_iff.mp hnext
    obtain ⟨hfree, rfl⟩ := Flavors.registerList_eq_ok_iff.mp hregister
    exact ⟨Keyed.length_insert hfree, rfl⟩
  rw [listFlavors_outcome] at h
  constructor
  · exact Except.foldlM_count (fun mid => mid.lists.length)
      (fun mid record next hnext => (hstep mid record next hnext).1) h
  · refine Except.foldlM_keeps (P := fun mid => mid.maps = flavors.maps) ?_ rfl h
    intro mid record next _ hmid hnext
    rw [(hstep mid record next hnext).2, hmid]

theorem mapFlavors_length {records : List MapFlavorRecord}
    (h : (mapFlavors registry types flavors records).outcome = .ok later) :
    later.maps.length = flavors.maps.length + records.length ∧ later.lists = flavors.lists := by
  have hstep : ∀ mid record next, registerMap registry types mid record = .ok next →
      next.maps.length = mid.maps.length + 1 ∧ next.lists = mid.lists := by
    intro mid record next hnext
    obtain ⟨flavor, -, hregister⟩ := registerMap_eq_ok_iff.mp hnext
    obtain ⟨hfree, rfl⟩ := Flavors.registerMap_eq_ok_iff.mp hregister
    exact ⟨Keyed.length_insert hfree, rfl⟩
  rw [mapFlavors_outcome] at h
  constructor
  · exact Except.foldlM_count (fun mid => mid.maps.length)
      (fun mid record next hnext => (hstep mid record next hnext).1) h
  · refine Except.foldlM_keeps (P := fun mid => mid.lists = flavors.lists) ?_ rfl h
    intro mid record next _ hmid hnext
    rw [(hstep mid record next hnext).2, hmid]

end Load

end ProgramImage
