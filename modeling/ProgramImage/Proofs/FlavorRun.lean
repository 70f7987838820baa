import ProgramImage.Proofs.KeyedRun
import ProgramImage.Proofs.Resolution

/-!
# Registering flavors

Flavors are registered record by record. A flavor that is registered refers to numbered types
only and stands under the types it is for. Since there is one flavor at most for these types,
the records are gone through as a run with keys of their own, in whatever order.

## Main definitions

* `Load.registerList` and `Load.registerMap` register the flavor of one record.
* `Flavors.IsResolved` says that the flavors refer to numbered types and stand under their own
  keys.

## Main statements

* `Load.listFlavors_isResolved` and `Load.mapFlavors_isResolved` hold of registered flavors.
* `Load.listFlavors_eq_ok_iff` and `Load.mapFlavors_eq_ok_iff` see the registration as a run.
* `Load.listFlavors_perm` and `Load.mapFlavors_perm` register flavors in another order.
-/

namespace ProgramImage

namespace Flavors

variable {flavors later : Flavors}

/-- Every flavor stands under the types it is for, and refers to numbered types. -/
structure IsResolved (flavors : Flavors) (registry : NameRegistry) : Prop where
  lists : ∀ entry ∈ flavors.lists,
    entry.1 = entry.2.entry ∧ ∀ tid ∈ entry.2.typeIds, registry.Numbers tid
  maps : ∀ entry ∈ flavors.maps,
    entry.1 = entry.2.entryTypes ∧ ∀ tid ∈ entry.2.typeIds, registry.Numbers tid

theorem isResolved_empty (registry : NameRegistry) : empty.IsResolved registry :=
  ⟨nofun, nofun⟩

theorem registerList_eq_ok_iff {flavor : ListFlavor} :
    flavors.registerList flavor = .ok later ↔ Keyed.get? flavor.entry flavors.lists = none ∧
      later = { flavors with lists := Keyed.insert flavor.entry flavor flavors.lists } := by
  unfold registerList list?
  cases Keyed.get? flavor.entry flavors.lists with
  | none => simp [eq_comm]
  | some found => simp

theorem registerMap_eq_ok_iff {flavor : MapFlavor} :
    flavors.registerMap flavor = .ok later ↔ Keyed.get? flavor.entryTypes flavors.maps = none ∧
      later = { flavors with maps := Keyed.insert flavor.entryTypes flavor flavors.maps } := by
  have hfound : flavors.map? flavor.key flavor.value = Keyed.get? flavor.entryTypes flavors.maps :=
    rfl
  unfold registerMap
  rw [hfound]
  cases Keyed.get? flavor.entryTypes flavors.maps with
  | none => simp [eq_comm]
  | some found => simp

end Flavors

namespace Load

variable {registry : NameRegistry} {types : TypeTable} {flavors later : Flavors}

/-- Registers the list flavor of a record. -/
def registerList (registry : NameRegistry) (types : TypeTable) (flavors : Flavors)
    (record : ListFlavorRecord) : Except LoadError Flavors := do
  let flavor ← listFlavor registry types record
  (flavors.registerList flavor).mapError .flavor

/-- Registers the map flavor of a record. -/
def registerMap (registry : NameRegistry) (types : TypeTable) (flavors : Flavors)
    (record : MapFlavorRecord) : Except LoadError Flavors := do
  let flavor ← mapFlavor registry types record
  (flavors.registerMap flavor).mapError .flavor

theorem registerList_eq_ok_iff {record : ListFlavorRecord} :
    registerList registry types flavors record = .ok later ↔
      ∃ flavor, listFlavor registry types record = .ok flavor ∧
        flavors.registerList flavor = .ok later := by
  unfold registerList
  simp only [Except.bind_eq_ok, Except.mapError_eq_ok]

theorem registerMap_eq_ok_iff {record : MapFlavorRecord} :
    registerMap registry types flavors record = .ok later ↔
      ∃ flavor, mapFlavor registry types record = .ok flavor ∧
        flavors.registerMap flavor = .ok later := by
  unfold registerMap
  simp only [Except.bind_eq_ok, Except.mapError_eq_ok]

theorem listFlavors_outcome (records : List ListFlavorRecord) :
    (listFlavors registry types flavors records).outcome =
      records.foldlM (registerList registry types) flavors := by
  unfold listFlavors
  rw [Traced.outcome_bind]
  refine (Traced.outcome_foldlM _ _ _).trans ?_
  congr
  funext flavors record
  exact Traced.outcome_store _ _ _ _

theorem mapFlavors_outcome (records : List MapFlavorRecord) :
    (mapFlavors registry types flavors records).outcome =
      records.foldlM (registerMap registry types) flavors := by
  unfold mapFlavors
  rw [Traced.outcome_bind]
  refine (Traced.outcome_foldlM _ _ _).trans ?_
  congr
  funext flavors record
  exact Traced.outcome_store _ _ _ _

/-! ### What registered flavors refer to -/

theorem listFlavors_isResolved (htypes : types.IsPlaced) {records : List ListFlavorRecord}
    (hflavors : flavors.IsResolved registry)
    (h : (listFlavors registry types flavors records).outcome = .ok later) :
    later.IsResolved registry := by
  rw [listFlavors_outcome] at h
  refine Except.foldlM_keeps (P := fun mid => mid.IsResolved registry) ?_ hflavors h
  intro mid record next _ hmid hnext
  obtain ⟨flavor, hflavor, hregister⟩ := registerList_eq_ok_iff.mp hnext
  obtain ⟨-, rfl⟩ := Flavors.registerList_eq_ok_iff.mp hregister
  refine ⟨?_, hmid.maps⟩
  intro entry hentry
  rcases Keyed.mem_insert hentry with rfl | hold
  · exact ⟨rfl, listFlavor_refers htypes hflavor⟩
  · exact hmid.lists entry hold

theorem mapFlavors_isResolved (htypes : types.IsPlaced) {records : List MapFlavorRecord}
    (hflavors : flavors.IsResolved registry)
    (h : (mapFlavors registry types flavors records).outcome = .ok later) :
    later.IsResolved registry := by
  rw [mapFlavors_outcome] at h
  refine Except.foldlM_keeps (P := fun mid => mid.IsResolved registry) ?_ hflavors h
  intro mid record next _ hmid hnext
  obtain ⟨flavor, hflavor, hregister⟩ := registerMap_eq_ok_iff.mp hnext
  obtain ⟨-, rfl⟩ := Flavors.registerMap_eq_ok_iff.mp hregister
  refine ⟨hmid.lists, ?_⟩
  intro entry hentry
  rcases Keyed.mem_insert hentry with rfl | hold
  · exact ⟨rfl, mapFlavor_refers htypes hflavor⟩
  · exact hmid.maps entry hold

/-! ### Runs over the records -/

theorem listFlavors_eq_ok_iff {records : List ListFlavorRecord} :
    (listFlavors registry types flavors records).outcome = .ok later ↔
      KeyedRun (listFlavor registry types) ListFlavor.entry flavors.lists records later.lists ∧
        later.maps = flavors.maps := by
  have hstep : ∀ flavors record next, registerList registry types flavors record = .ok next ↔
      ∃ flavor, listFlavor registry types record = .ok flavor ∧
        Keyed.get? flavor.entry flavors.lists = none ∧
        next = { flavors with lists := Keyed.insert flavor.entry flavor flavors.lists } := by
    intro flavors record next
    simp only [registerList_eq_ok_iff, Flavors.registerList_eq_ok_iff]
  rw [listFlavors_outcome, KeyedRun.foldlM_eq_ok_iff Flavors.lists
    (fun flavors lists => { flavors with lists }) (fun _ _ => rfl) (fun _ => rfl)
    (fun _ _ _ => rfl) hstep]
  refine and_congr_right fun _ => ?_
  constructor
  · intro hsame
    rw [← hsame]
  · intro hmaps
    rw [← hmaps]

theorem mapFlavors_eq_ok_iff {records : List MapFlavorRecord} :
    (mapFlavors registry types flavors records).outcome = .ok later ↔
      KeyedRun (mapFlavor registry types) MapFlavor.entryTypes flavors.maps records later.maps ∧
        later.lists = flavors.lists := by
  have hstep : ∀ flavors record next, registerMap registry types flavors record = .ok next ↔
      ∃ flavor, mapFlavor registry types record = .ok flavor ∧
        Keyed.get? flavor.entryTypes flavors.maps = none ∧
        next = { flavors with maps := Keyed.insert flavor.entryTypes flavor flavors.maps } := by
    intro flavors record next
    simp only [registerMap_eq_ok_iff, Flavors.registerMap_eq_ok_iff]
  rw [mapFlavors_outcome, KeyedRun.foldlM_eq_ok_iff Flavors.maps
    (fun flavors maps => { flavors with maps }) (fun _ _ => rfl) (fun _ => rfl)
    (fun _ _ _ => rfl) hstep]
  refine and_congr_right fun _ => ?_
  constructor
  · intro hsame
    rw [← hsame]
  · intro hlists
    rw [← hlists]

theorem listFlavors_perm {records others : List ListFlavorRecord} (hperm : records.Perm others)
    (h : (listFlavors registry types flavors records).outcome = .ok later) :
    (listFlavors registry types flavors others).outcome = .ok later := by
  obtain ⟨hrun, hmaps⟩ := listFlavors_eq_ok_iff.mp h
  exact listFlavors_eq_ok_iff.mpr ⟨hrun.perm hperm, hmaps⟩

theorem mapFlavors_perm {records others : List MapFlavorRecord} (hperm : records.Perm others)
    (h : (mapFlavors registry types flavors records).outcome = .ok later) :
    (mapFlavors registry types flavors others).outcome = .ok later := by
  obtain ⟨hrun, hlists⟩ := mapFlavors_eq_ok_iff.mp h
  exact mapFlavors_eq_ok_iff.mpr ⟨hrun.perm hperm, hlists⟩

end Load

end ProgramImage
