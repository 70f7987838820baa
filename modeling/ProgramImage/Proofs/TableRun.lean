import ProgramImage.Load.Phases
import ProgramImage.Proofs.Outcome
import ProgramImage.Proofs.TypeTable

/-!
# Tables that are filled record by record

A table is filled by one record after the other: the record is resolved, with the table
that the earlier ones left, and its declaration is stored at its own place. `FillRun` is
such a run. A run keeps what the table held, finds its places empty, and so stores at most
one declaration for each key.

## Main definitions

* `FillRun` is a run over a list of records.

## Main statements

* `Load.fill_eq_ok_iff` finds the run behind a table that is filled.
* `FillRun.invariant` carries an invariant of a table through a run.
* `FillRun.origin` and `FillRun.stored` tie the declarations of a table to its records.
* `FillRun.keys_nodup` says that no two records have one key.
* `Load.fill_perm` fills a table in another order.
* `Load.types_eq_ok_iff`, `Load.boxedTypes_eq_ok_iff` and `Load.invokes_eq_ok_iff` are the
  runs behind the tables of a load.
-/

namespace ProgramImage

variable {ρ κ α : Type}

/-! ### Runs -/

/-- Records are resolved and stored one after the other, each with the table that the
    earlier ones left. -/
inductive FillRun [Declared α] (resolve : SlotTable α → ρ → Except LoadError α) :
    SlotTable α → List ρ → SlotTable α → Prop
  | nil (table : SlotTable α) : FillRun resolve table [] table
  | cons {table mid later : SlotTable α} {record : ρ} {rest : List ρ} {item : α}
      (hitem : resolve table record = .ok item) (hinsert : table.insert item = .ok mid)
      (hrest : FillRun resolve mid rest later) : FillRun resolve table (record :: rest) later

namespace FillRun

variable [Declared α] {resolve : SlotTable α → ρ → Except LoadError α}
  {table later : SlotTable α} {records : List ρ}

/-- What storing each declaration keeps, a run keeps. -/
theorem invariant {P : SlotTable α → Prop} (run : FillRun resolve table records later)
    (hstep : ∀ mid record item next, P mid → resolve mid record = .ok item →
      mid.insert item = .ok next → P next) (htable : P table) : P later := by
  induction run with
  | nil => exact htable
  | cons hitem hinsert _ ih => exact ih (hstep _ _ _ _ htable hitem hinsert)

theorem size_eq (run : FillRun resolve table records later) : later.size = table.size := by
  refine run.invariant (P := fun mid => mid.size = table.size) ?_ rfl
  intro mid record item next hmid _ hinsert
  obtain ⟨-, -, hsize, -⟩ := SlotTable.insert_eq_ok hinsert
  rw [hsize, hmid]

theorem extends_table (run : FillRun resolve table records later) : later.Extends table := by
  refine run.invariant (P := fun mid => mid.Extends table) ?_ (.refl table)
  intro mid record item next hmid _ hinsert
  exact (SlotTable.extends_of_insert hinsert).trans hmid

theorem isPlaced (run : FillRun resolve table records later) (htable : table.IsPlaced) :
    later.IsPlaced :=
  run.invariant (fun _ _ _ _ hmid _ hinsert => hmid.insert hinsert) htable

/-- A declaration that is found after a run was there before, or is that of a record. -/
theorem origin (run : FillRun resolve table records later) {p : Nat} {item : α}
    (h : later.get? p = some item) :
    table.get? p = some item ∨
      ∃ record ∈ records, ∃ mid, resolve mid record = .ok item ∧ later.Extends mid := by
  induction run with
  | nil => exact .inl h
  | @cons table mid later record rest stored hitem hinsert hrest ih =>
    rcases ih h with hmid | ⟨source, hsource, earlier, hresolve, hextends⟩
    · obtain ⟨-, -, -, hget⟩ := SlotTable.insert_eq_ok hinsert
      rw [hget] at hmid
      split at hmid
      · cases hmid
        have hextends := hrest.extends_table.trans (SlotTable.extends_of_insert hinsert)
        exact .inr ⟨record, List.mem_cons_self, table, hitem, hextends⟩
      · exact .inl hmid
    · exact .inr ⟨source, List.mem_cons_of_mem _ hsource, earlier, hresolve, hextends⟩

/-- The declaration of every record is found after a run, at a place that was empty before. -/
theorem stored (run : FillRun resolve table records later) {record : ρ}
    (hrecord : record ∈ records) :
    ∃ mid item, resolve mid record = .ok item ∧ later.Extends mid ∧
      table.get? (Declared.place item) = none ∧ later.get? (Declared.place item) = some item := by
  induction run with
  | nil => cases hrecord
  | @cons table mid later first rest item hitem hinsert hrest ih =>
    obtain ⟨-, hempty, -, hget⟩ := SlotTable.insert_eq_ok hinsert
    rcases List.mem_cons.mp hrecord with rfl | hlater
    · have hextends := hrest.extends_table.trans (SlotTable.extends_of_insert hinsert)
      refine ⟨table, item, hitem, hextends, hempty, hrest.extends_table _ _ ?_⟩
      rw [hget, if_pos rfl]
    · obtain ⟨earlier, found, hresolve, hextends, hfree, hfound⟩ := ih hlater
      refine ⟨earlier, found, hresolve, hextends, ?_, hfound⟩
      -- a place that is empty after the first record is stored was empty before
      rw [hget] at hfree
      split at hfree
      · cases hfree
      · exact hfree

/-- When the key of a record decides the place of its declaration, no two records of a run
    have one key. -/
theorem keys_nodup (run : FillRun resolve table records later) {key : ρ → κ} {place : κ → Nat}
    (hplace : ∀ mid record item, resolve mid record = .ok item →
      Declared.place item = place (key record)) : (records.map key).Nodup := by
  induction run with
  | nil => exact List.nodup_nil
  | @cons table mid later first rest item hitem hinsert hrest ih =>
    rw [List.map_cons, List.nodup_cons]
    refine ⟨?_, ih⟩
    intro hsame
    obtain ⟨other, hother, hkey⟩ := List.mem_map.mp hsame
    -- a later record with this key would find its place taken
    obtain ⟨earlier, found, hresolve, -, hfree, -⟩ := hrest.stored hother
    obtain ⟨-, -, -, hget⟩ := SlotTable.insert_eq_ok hinsert
    rw [hget, hplace _ _ _ hresolve, hkey, ← hplace _ _ _ hitem, if_pos rfl] at hfree
    cases hfree

end FillRun

namespace Load

variable [Declared α] {make : SlotTable α → ρ → Traced α} {table later : SlotTable α}
  {records : List ρ}

theorem fill_step_eq_ok {record : ρ} :
    (make table record >>= fun item => Traced.lift .table (table.insert item)).outcome = .ok later ↔
      ∃ item, (make table record).outcome = .ok item ∧ table.insert item = .ok later := by
  rw [Traced.outcome_bind, Except.bind_eq_ok]
  simp only [Traced.outcome_lift_eq_ok]

/-- A table is filled by a run over its records. -/
theorem fill_eq_ok_iff {resolve : SlotTable α → ρ → Except LoadError α}
    (hmake : ∀ table record, (make table record).outcome = resolve table record) :
    (fill make table records).outcome = .ok later ↔ FillRun resolve table records later := by
  unfold fill
  rw [Traced.outcome_foldlM]
  induction records generalizing table with
  | nil =>
    constructor
    · intro h
      cases h
      exact .nil _
    · intro run
      cases run
      rfl
  | cons record rest ih =>
    rw [List.foldlM_cons, Except.bind_eq_ok]
    constructor
    · rintro ⟨mid, hmid, hrest⟩
      obtain ⟨item, hitem, hinsert⟩ := fill_step_eq_ok.mp hmid
      rw [hmake] at hitem
      exact .cons hitem hinsert (ih.mp hrest)
    · intro run
      cases run with
      | cons hitem hinsert hrest =>
        rw [← hmake] at hitem
        exact ⟨_, fill_step_eq_ok.mpr ⟨_, hitem, hinsert⟩, ih.mpr hrest⟩

/-- A table may be filled in any order, when a record is resolved alike before and after
    another one is stored. -/
theorem fill_perm {others : List ρ}
    (hbefore : ∀ table record item mid other found, (make table record).outcome = .ok item →
      table.insert item = .ok mid → (make mid other).outcome = .ok found →
      (make table other).outcome = .ok found)
    (hafter : ∀ table item mid other found, table.insert item = .ok mid →
      (make table other).outcome = .ok found → (make mid other).outcome = .ok found)
    (hperm : records.Perm others) (h : (fill make table records).outcome = .ok later) :
    (fill make table others).outcome = .ok later := by
  unfold fill at h ⊢
  rw [Traced.outcome_foldlM] at h ⊢
  refine Except.foldlM_perm ?_ hperm h
  intro table first second mid later hfirst hsecond
  obtain ⟨item, hitem, hinsert⟩ := fill_step_eq_ok.mp hfirst
  obtain ⟨other, hother, hinsertOther⟩ := fill_step_eq_ok.mp hsecond
  obtain ⟨mid', hmid', hlater⟩ := SlotTable.insert_comm hinsert hinsertOther
  have hotherFirst := hbefore table first item mid second other hitem hinsert hother
  have hitemLast := hafter table other mid' first item hmid' hitem
  exact ⟨mid', fill_step_eq_ok.mpr ⟨other, hotherFirst, hmid'⟩,
    fill_step_eq_ok.mpr ⟨item, hitemLast, hlater⟩⟩

/-! ### The tables of a load -/

variable {config : LoadConfig} {registry : NameRegistry}

theorem types_eq_ok_iff {records : List TypeRecord} {later : TypeTable} :
    (types config registry records).outcome = .ok later ↔
      FillRun (fun _ record => typeDescriptor registry config.verifyMasks record)
        (TypeTable.reserved (registry.count .type)) records later := by
  unfold types
  rw [Traced.outcome_bind]
  refine fill_eq_ok_iff ?_
  intro table record
  cases typeDescriptor registry config.verifyMasks record <;> rfl

theorem boxedTypes_eq_ok_iff {declared later : TypeTable} {records : List BoxedRecord} :
    (boxedTypes registry declared records).outcome = .ok later ↔
      FillRun (boxedType registry) declared records later := by
  unfold boxedTypes
  rw [Traced.outcome_bind]
  exact fill_eq_ok_iff fun _ _ => Traced.outcome_lift_id _

/-- After both phases of type declarations every reserved type has its own descriptor. -/
theorem holdsReserved_boxedTypes {declared later : TypeTable} {typeRecords : List TypeRecord}
    {boxedRecords : List BoxedRecord}
    (htypes : (types config registry typeRecords).outcome = .ok declared)
    (hboxed : (boxedTypes registry declared boxedRecords).outcome = .ok later) :
    later.HoldsReserved := by
  have hdeclared := (types_eq_ok_iff.mp htypes).extends_table
  have hlater := (boxedTypes_eq_ok_iff.mp hboxed).extends_table
  exact (TypeTable.holdsReserved_reserved _).of_extends (hlater.trans hdeclared)

theorem types_isPlaced {declared later : TypeTable} {typeRecords : List TypeRecord}
    {boxedRecords : List BoxedRecord}
    (htypes : (types config registry typeRecords).outcome = .ok declared)
    (hboxed : (boxedTypes registry declared boxedRecords).outcome = .ok later) :
    later.IsPlaced :=
  (boxedTypes_eq_ok_iff.mp hboxed).isPlaced
    ((types_eq_ok_iff.mp htypes).isPlaced (TypeTable.isPlaced_reserved _))

theorem invokes_eq_ok_iff {records : List InvokeRecord} {later : InvokeTable} :
    (invokes config registry records).outcome = .ok later ↔
      FillRun (fun _ record => invoke registry config.verifyMasks record)
        (.empty (registry.count .invoke)) records later := by
  unfold invokes
  rw [Traced.outcome_bind]
  exact fill_eq_ok_iff fun _ _ => Traced.outcome_lift_id _

end Load

end ProgramImage
